import Plotter.Template.Basic

/-!
# The built-in template

The generated unit: a package with the elementary functions under short names, a type
whose one method is the expression, and the four symbols through which a library offers
it. A panic inside the expression comes out as a value that is no number.
-/

namespace Plotter.Template

/-- The name of the built-in template. -/
def builtinName : String := "function.rs.tmpl"

/-- The lines of the built-in template. -/
def builtinLines : List String :=
  ["// Generated by fxplot: $packageName::$unitName",
    "#![allow(dead_code, unused_imports, unused_variables, unused_unsafe, non_snake_case, non_camel_case_types)]",
    "",
    "use std::ffi::c_void;",
    "use std::panic::\x7bAssertUnwindSafe, catch_unwind\x7d;",
    "",
    "pub mod $packageName \x7b",
    "    use self::prelude::*;",
    "",
    "    pub mod prelude \x7b",
    "        pub use std::f64::consts::\x7bE, LN_10, LN_2, PI, SQRT_2, TAU\x7d;",
    "",
    "        pub fn sin(x: f64) -> f64 \x7b x.sin() \x7d",
    "        pub fn cos(x: f64) -> f64 \x7b x.cos() \x7d",
    "        pub fn tan(x: f64) -> f64 \x7b x.tan() \x7d",
    "        pub fn asin(x: f64) -> f64 \x7b x.asin() \x7d",
    "        pub fn acos(x: f64) -> f64 \x7b x.acos() \x7d",
    "        pub fn atan(x: f64) -> f64 \x7b x.atan() \x7d",
    "        pub fn atan2(y: f64, x: f64) -> f64 \x7b y.atan2(x) \x7d",
    "        pub fn sinh(x: f64) -> f64 \x7b x.sinh() \x7d",
    "        pub fn cosh(x: f64) -> f64 \x7b x.cosh() \x7d",
    "        pub fn tanh(x: f64) -> f64 \x7b x.tanh() \x7d",
    "        pub fn asinh(x: f64) -> f64 \x7b x.asinh() \x7d",
    "        pub fn acosh(x: f64) -> f64 \x7b x.acosh() \x7d",
    "        pub fn atanh(x: f64) -> f64 \x7b x.atanh() \x7d",
    "        pub fn exp(x: f64) -> f64 \x7b x.exp() \x7d",
    "        pub fn exp2(x: f64) -> f64 \x7b x.exp2() \x7d",
    "        pub fn expm1(x: f64) -> f64 \x7b x.exp_m1() \x7d",
    "        pub fn ln(x: f64) -> f64 \x7b x.ln() \x7d",
    "        pub fn log(x: f64) -> f64 \x7b x.ln() \x7d",
    "        pub fn log10(x: f64) -> f64 \x7b x.log10() \x7d",
    "        pub fn log2(x: f64) -> f64 \x7b x.log2() \x7d",
    "        pub fn log1p(x: f64) -> f64 \x7b x.ln_1p() \x7d",
    "        pub fn sqrt(x: f64) -> f64 \x7b x.sqrt() \x7d",
    "        pub fn cbrt(x: f64) -> f64 \x7b x.cbrt() \x7d",
    "        pub fn abs(x: f64) -> f64 \x7b x.abs() \x7d",
    "        pub fn floor(x: f64) -> f64 \x7b x.floor() \x7d",
    "        pub fn ceil(x: f64) -> f64 \x7b x.ceil() \x7d",
    "        pub fn round(x: f64) -> f64 \x7b x.round() \x7d",
    "        pub fn trunc(x: f64) -> f64 \x7b x.trunc() \x7d",
    "        pub fn signum(x: f64) -> f64 \x7b x.signum() \x7d",
    "        pub fn pow(x: f64, y: f64) -> f64 \x7b x.powf(y) \x7d",
    "        pub fn powi(x: f64, n: i32) -> f64 \x7b x.powi(n) \x7d",
    "        pub fn hypot(x: f64, y: f64) -> f64 \x7b x.hypot(y) \x7d",
    "        pub fn min(a: f64, b: f64) -> f64 \x7b a.min(b) \x7d",
    "        pub fn max(a: f64, b: f64) -> f64 \x7b a.max(b) \x7d",
    "        pub fn to_degrees(x: f64) -> f64 \x7b x.to_degrees() \x7d",
    "        pub fn to_radians(x: f64) -> f64 \x7b x.to_radians() \x7d",
    "    \x7d",
    "",
    "    pub struct $unitName;",
    "",
    "    impl $unitName \x7b",
    "        pub fn f(&self, x: f64) -> f64 \x7b",
    "            $expression",
    "        \x7d",
    "    \x7d",
    "\x7d",
    "",
    "#[unsafe(no_mangle)]",
    "pub extern \"C\" fn fxplot_abi_version() -> u32 \x7b",
    "    1",
    "\x7d",
    "",
    "#[unsafe(no_mangle)]",
    "pub extern \"C\" fn fxplot_construct() -> *mut c_void \x7b",
    "    match catch_unwind(|| Box::new($packageName::$unitName)) \x7b",
    "        Ok(instance) => Box::into_raw(instance).cast(),",
    "        Err(_) => std::ptr::null_mut(),",
    "    \x7d",
    "\x7d",
    "",
    "/// # Safety",
    "/// `instance` must come from `fxplot_construct` and not yet be destroyed.",
    "#[unsafe(no_mangle)]",
    "pub unsafe extern \"C\" fn fxplot_eval(instance: *const c_void, x: f64) -> f64 \x7b",
    "    if instance.is_null() \x7b",
    "        return f64::NAN;",
    "    \x7d",
    "    let unit = unsafe \x7b &*instance.cast::<$packageName::$unitName>() \x7d;",
    "    catch_unwind(AssertUnwindSafe(|| unit.f(x))).unwrap_or(f64::NAN)",
    "\x7d",
    "",
    "/// # Safety",
    "/// `instance` must come from `fxplot_construct` and is invalid afterwards.",
    "#[unsafe(no_mangle)]",
    "pub unsafe extern \"C\" fn fxplot_destroy(instance: *mut c_void) \x7b",
    "    if !instance.is_null() \x7b",
    "        drop(unsafe \x7b Box::from_raw(instance.cast::<$packageName::$unitName>()) \x7d);",
    "    \x7d",
    "\x7d"]

/-- The text of the built-in template. -/
def builtinText : String := String.join (builtinLines.map (· ++ "\n"))

end Plotter.Template
