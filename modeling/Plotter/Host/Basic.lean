import Plotter.Compiler.Bench
import Plotter.Template.Store

/-!
# Hosts

A host has a bench and a template, and makes an instance of a function out of each
expression that it is given. Its set-up finds the first thing that is wrong, and leaves no
scratch directory behind if there is one.
-/

namespace Plotter

/-- How a host is set up. -/
structure HostSettings where
  compiler : Settings := {}
  template : TemplateSource := .builtin
  /-- What package names begin with. -/
  packageBase : String := PackageBase.default.text
  /-- How often a library that could not be loaded is made anew. -/
  retries : UInt32 := 1
  deriving Repr, DecidableEq

/-- A host. -/
structure Host where
  bench : Bench
  templates : TemplateStore
  retries : UInt32

namespace Host

/-- A host on a bench. The template is read at once; if it cannot be, the bench goes. -/
def onBench (m : Machine) (templates : TemplateStore) (bench : Bench) (retries : UInt32) :
    Except Failure Host × Machine :=
  match templates.load m.files with
  | (.ok _, templates) => (.ok ⟨bench, templates, retries⟩, m)
  | (.error failure, _) => (.error failure, m.closeScratch bench.scratch)

/-- The base of package names that the settings give. -/
def packageBase (s : HostSettings) : Except Failure PackageBase :=
  match PackageBase.ofText? s.packageBase with
  | some base => .ok base
  | none => .error (.configuration (.packageBase s.packageBase))

/-- A host with a source of names of its own, as its settings say. -/
def setUp (m : Machine) (chance : UInt64 → Draw) (s : HostSettings) :
    Except Failure (Host × NameSource) × Machine :=
  match packageBase s with
  | .error failure => (.error failure, m)
  | .ok base =>
    match Bench.setUp m s.compiler with
    | .error failure => (.error failure, m)
    | .ok (bench, m) =>
      match onBench m { source := s.template } bench s.retries with
      | (.ok host, m) => (.ok (host, { base, chance }), m)
      | (.error failure, m) => (.error failure, m)

/-- Another host with the settings and the toolchain of a host that is there. -/
def beside (h : Host) (m : Machine) (s : HostSettings) : Except Failure Host × Machine :=
  match Bench.withToolchain m s.compiler h.bench.toolchain with
  | .error failure => (.error failure, m)
  | .ok (bench, m) => onBench m { source := s.template } bench s.retries

end Host

end Plotter
