import Plotter.Machine.Basic

/-!
# What is in scratch directories

A library has a *place*: a file name in a scratch directory. Here it is said what the actions of a
machine do to the places. To leave a product somewhere, or to discard it, changes what is at that
place and at no other (`Machine.OnlyAt`), and makes and removes no scratch directory.
-/

namespace Plotter

/-- A place for a library. -/
structure Place where
  /-- The number of the scratch directory. -/
  scratch : Nat
  file : String
  deriving DecidableEq

/-- What is under a name does not depend on what is under another one. -/
theorem lookup_filter_ne {α : Type} {name other : String} (h : other ≠ name)
    (entries : List (String × α)) :
    (entries.filter fun entry => entry.1 != name).lookup other = entries.lookup other := by
  induction entries with
  | nil => rfl
  | cons entry entries ih =>
    obtain ⟨own, value⟩ := entry
    by_cases same : own = name
    · subst same
      have unlike : (other == own) = false := beq_eq_false_iff_ne.2 h
      simpa [List.lookup_cons, unlike] using ih
    · have kept : ((own, value) :: entries).filter (fun entry => entry.1 != name) =
          (own, value) :: entries.filter fun entry => entry.1 != name := by
        simp [same]
      rw [kept, List.lookup_cons, List.lookup_cons, ih]

namespace Machine

/-- What is at a place. -/
def at? (m : Machine) (p : Place) : Option Product := m.product? p.scratch p.file

/-- Whether a scratch directory is there. -/
def hasScratch (m : Machine) (number : Nat) : Bool := (m.scratch? number).isSome

/-- No file name stands twice in a scratch directory. -/
def Neat (m : Machine) : Prop :=
  ∀ number s, m.scratch? number = some s → (s.contents.map Prod.fst).Nodup

variable {m m' : Machine} {p q : Place}

theorem hasScratch_of_at? {product : Product} (h : m.at? p = some product) :
    m.hasScratch p.scratch = true := by
  unfold at? product? at h
  unfold hasScratch
  cases found : m.scratch? p.scratch with
  | none => simp [found] at h
  | some s => rfl

/-- What is in a scratch directory is all that depends on the scratch directories. -/
theorem at?_congr (same : m'.scratches = m.scratches) (p : Place) : m'.at? p = m.at? p := by
  simp only [at?, product?, scratch?, same]

theorem hasScratch_congr (same : m'.scratches = m.scratches) (number : Nat) :
    m'.hasScratch number = m.hasScratch number := by
  simp only [hasScratch, scratch?, same]

theorem at?_of_empty (empty : ∀ s ∈ m.scratches, s.contents = []) (p : Place) :
    m.at? p = none := by
  unfold at? product?
  cases found : m.scratch? p.scratch with
  | none => rfl
  | some s =>
    have member : s ∈ m.scratches := List.mem_of_find?_eq_some found
    simp [empty s member]

/-! ### Lists of files -/

theorem lookup_without {file other : String} (h : other ≠ file)
    (contents : List (String × Product)) :
    (without file contents).lookup other = contents.lookup other :=
  lookup_filter_ne h contents

theorem lookup_without_self (file : String) (contents : List (String × Product)) :
    (without file contents).lookup file = none := by
  rw [List.lookup_eq_none_iff]
  intro entry member
  have := (List.mem_filter.1 member).2
  grind

theorem nodup_without (file : String) {contents : List (String × Product)}
    (h : (contents.map Prod.fst).Nodup) : ((without file contents).map Prod.fst).Nodup :=
  (List.filter_sublist.map Prod.fst).nodup h

theorem nodup_without_append (file : String) (product : Product)
    {contents : List (String × Product)}
    (h : (contents.map Prod.fst).Nodup) :
    ((without file contents ++ [(file, product)]).map Prod.fst).Nodup := by
  rw [List.map_append, List.nodup_append]
  refine ⟨nodup_without file h, by simp, ?_⟩
  intro name old other new
  obtain ⟨entry, member, rfl⟩ := List.mem_map.1 old
  have unlike := (List.mem_filter.1 member).2
  grind

/-! ### Scratch directories that change -/

theorem scratch?_changeScratch (m : Machine) (n k : Nat)
    (change : List (String × Product) → List (String × Product)) :
    (m.changeScratch n change).scratch? k =
      (m.scratch? k).map fun s => if k = n then { s with contents := change s.contents } else s := by
  unfold scratch? changeScratch
  dsimp only
  induction m.scratches with
  | nil => rfl
  | cons s rest ih =>
    rw [List.map_cons, List.find?_cons, List.find?_cons]
    have number : (if s.number = n then { s with contents := change s.contents } else s).number =
        s.number := by
      split <;> rfl
    rw [number]
    cases own : s.number == k with
    | false => exact ih
    | true =>
      obtain rfl : s.number = k := by simpa using own
      rfl

theorem scratch?_changeScratch_self (m : Machine) (number : Nat)
    (change : List (String × Product) → List (String × Product)) :
    (m.changeScratch number change).scratch? number =
      (m.scratch? number).map fun s => { s with contents := change s.contents } := by
  rw [scratch?_changeScratch]
  simp only [if_true]

theorem scratch?_closeScratch (m : Machine) (n k : Nat) :
    (m.closeScratch n).scratch? k = if k = n then none else m.scratch? k := by
  unfold scratch? closeScratch
  dsimp only
  rw [List.find?_filter]
  split
  · rename_i same
    subst same
    rw [List.find?_eq_none]
    intro s _
    cases own : s.number == k <;> simp_all
  · rename_i other
    congr 1
    funext s
    by_cases own : s.number = k
    · simp [own, other]
    · simp [own]

/-- From one machine to another, nothing changed but what is at a place. -/
structure OnlyAt (p : Place) (m m' : Machine) : Prop where
  scratches : ∀ number, m'.hasScratch number = m.hasScratch number
  elsewhere : ∀ q, q ≠ p → m'.at? q = m.at? q
  neat : m.Neat → m'.Neat

theorem OnlyAt.of_scratches (same : m'.scratches = m.scratches) : OnlyAt p m m' where
  scratches := hasScratch_congr same
  elsewhere := fun q _ => at?_congr same q
  neat := fun neat number s found => neat number s (by simpa only [scratch?, same] using found)

theorem OnlyAt.refl (p : Place) (m : Machine) : OnlyAt p m m := .of_scratches rfl

theorem OnlyAt.trans {m₁ m₂ m₃ : Machine} (h₁ : OnlyAt p m₁ m₂) (h₂ : OnlyAt p m₂ m₃) :
    OnlyAt p m₁ m₃ where
  scratches := fun number => (h₂.scratches number).trans (h₁.scratches number)
  elsewhere := fun q other => (h₂.elsewhere q other).trans (h₁.elsewhere q other)
  neat := fun neat => h₂.neat (h₁.neat neat)

theorem onlyAt_changeScratch (m : Machine) (p : Place)
    {change : List (String × Product) → List (String × Product)}
    (elsewhere : ∀ contents other, other ≠ p.file →
      (change contents).lookup other = contents.lookup other)
    (neat : ∀ contents, (contents.map Prod.fst).Nodup → ((change contents).map Prod.fst).Nodup) :
    OnlyAt p m (m.changeScratch p.scratch change) where
  scratches := by
    intro number
    simp only [hasScratch, scratch?_changeScratch, Option.isSome_map]
  elsewhere := by
    intro q other
    simp only [at?, product?, scratch?_changeScratch]
    cases m.scratch? q.scratch with
    | none => rfl
    | some s =>
      simp only [Option.map_some, Option.bind_some]
      split
      · rename_i same
        refine elsewhere s.contents q.file fun own => other ?_
        cases p
        cases q
        simp_all
      · rfl
  neat := by
    intro before number s found
    rw [scratch?_changeScratch] at found
    cases old : m.scratch? number with
    | none => simp [old] at found
    | some s' =>
      simp only [old, Option.map_some, Option.some.injEq] at found
      subst found
      split
      · exact neat s'.contents (before number s' old)
      · exact before number s' old

/-! ### Products that come and go -/

theorem onlyAt_leave (m : Machine) (p : Place) (left : Option Product) :
    OnlyAt p m (m.leave p.scratch p.file left) := by
  cases left with
  | none => exact .refl p m
  | some product =>
    refine m.onlyAt_changeScratch p (fun contents other unlike => ?_)
      (fun contents => nodup_without_append p.file product)
    rw [List.lookup_append, lookup_without unlike]
    have missed : List.lookup other [(p.file, product)] = none := by
      simp [List.lookup_cons, beq_eq_false_iff_ne.2 unlike]
    rw [missed, Option.or_none]

theorem at?_leave_some (m : Machine) (p : Place) (product : Product) :
    (m.leave p.scratch p.file (some product)).at? p =
      if m.hasScratch p.scratch then some product else none := by
  simp only [leave, at?, product?, scratch?_changeScratch_self]
  cases found : m.scratch? p.scratch with
  | none => simp [hasScratch, found]
  | some s => simp [hasScratch, found, List.lookup_append, lookup_without_self]

/-- Where nothing is, or what is left already, it does not matter whether it is left again. -/
theorem at?_leave {left : Option Product} (before : m.at? p = none ∨ m.at? p = left) :
    (m.leave p.scratch p.file left).at? p = if m.hasScratch p.scratch then left else none := by
  cases left with
  | none =>
    have : m.at? p = none := by simpa using before
    simpa [leave] using this
  | some product => exact m.at?_leave_some p product

theorem onlyAt_discard (m : Machine) (p : Place) : OnlyAt p m (m.discard p.scratch p.file) := by
  unfold discard
  split
  · exact .refl p m
  · exact .of_scratches rfl
  · exact m.onlyAt_changeScratch p (fun contents other unlike => lookup_without unlike contents)
      (fun contents => nodup_without p.file)

/-- Regular files are removed. -/
theorem at?_discard (regular : ∀ product, m.at? p = some product → product.isRegular = true) :
    (m.discard p.scratch p.file).at? p = none := by
  unfold discard
  split
  · assumption
  · rename_i directory
    exact absurd (regular .directory directory) (by simp [Product.isRegular])
  · simp only [at?, product?, scratch?_changeScratch_self]
    cases m.scratch? p.scratch with
    | none => rfl
    | some s => exact lookup_without_self p.file s.contents

theorem at?_closeScratch (m : Machine) (number : Nat) (p : Place) :
    (m.closeScratch number).at? p = if p.scratch = number then none else m.at? p := by
  simp only [at?, product?, scratch?_closeScratch]
  split <;> rfl

theorem hasScratch_closeScratch (m : Machine) (n k : Nat) :
    (m.closeScratch n).hasScratch k = (k != n && m.hasScratch k) := by
  simp only [hasScratch, scratch?_closeScratch]
  by_cases same : k = n <;> simp [same]

theorem Neat.closeScratch (h : m.Neat) (number : Nat) : (m.closeScratch number).Neat := by
  intro k s found
  rw [scratch?_closeScratch] at found
  split at found
  · simp at found
  · exact h k s found

/-! ### The names of the files -/

theorem fileNames_isSome (m : Machine) (number : Nat) :
    (m.fileNames number).isSome = m.hasScratch number := by
  simp [fileNames, hasScratch]

theorem nodup_of_fileNames (neat : m.Neat) {number : Nat} {names : List String}
    (h : m.fileNames number = some names) : names.Nodup := by
  unfold fileNames at h
  cases found : m.scratch? number with
  | none => simp [found] at h
  | some s =>
    simp only [found, Option.map_some, Option.some.injEq] at h
    subst h
    exact neat number s found

theorem mem_of_fileNames {names : List String} (h : m.fileNames p.scratch = some names) :
    p.file ∈ names ↔ (m.at? p).isSome = true := by
  unfold fileNames at h
  cases found : m.scratch? p.scratch with
  | none => simp [found] at h
  | some s =>
    simp only [found, Option.map_some, Option.some.injEq] at h
    subst h
    simp only [at?, product?, found, Option.bind_some, List.mem_map]
    rw [← Option.ne_none_iff_isSome, ne_eq, List.lookup_eq_none_iff]
    grind

end Machine

end Plotter
