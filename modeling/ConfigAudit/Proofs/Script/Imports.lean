/-
# What a script may import

The imports of a script are looked for among all its statements, level by level, so that none is
missed however deep it stands.  The function that is called has to be defined at the top.

* `Python.Statement.Occurs` : a statement stands in a script, at any depth;
* `Python.Statement.mem_walk_iff` : the walk comes to these statements and no others;
* `Python.Allowed`, `Python.Statement.Harmless` : what may be imported;
* `Python.Parses` : the statements of a script that is well-formed;
* `readScript_python_iff` : which of these scripts are accepted, and why others are refused.
-/
import ConfigAudit.Proofs.Store.Change
import ConfigAudit.Rule.Validate

namespace ConfigAudit

namespace Python

/-! ## Statements in statements -/

namespace Statement

/-- A statement stands among others, or deeper inside one of them. -/
inductive Occurs (s : Statement) : List Statement → Prop where
  /-- It is one of them. -/
  | here {ss : List Statement} (mem : s ∈ ss) : Occurs s ss
  /-- It occurs in the body of a function. -/
  | inFunction {ss body : List Statement} {name : String} (mem : function name body ∈ ss)
      (inside : Occurs s body) : Occurs s ss
  /-- It occurs in the parts of another statement. -/
  | inCompound {ss parts : List Statement} (mem : compound parts ∈ ss)
      (inside : Occurs s parts) : Occurs s ss

variable {s : Statement} {ss tt : List Statement} {n : Nat}

/-- What occurs among some statements occurs among more. -/
theorem Occurs.mono (h : Occurs s ss) (sub : ss ⊆ tt) : Occurs s tt := by
  cases h with
  | here mem => exact .here (sub mem)
  | inFunction mem inside => exact .inFunction (sub mem) inside
  | inCompound mem inside => exact .inCompound (sub mem) inside

/-- What occurs right inside a statement occurs where the statement stands. -/
theorem Occurs.of_inner {t : Statement} (mem : t ∈ ss) (h : Occurs s t.inner) : Occurs s ss := by
  cases t with
  | function name body => exact .inFunction mem h
  | compound parts => exact .inCompound mem h
  | simple | importNames | importFrom =>
      -- nothing stands inside these
      rcases h with hmem | hmem | hmem <;> cases hmem

/-- What occurs stands at the top, or occurs one level further down. -/
theorem occurs_iff : Occurs s ss ↔ s ∈ ss ∨ Occurs s (ss.flatMap inner) := by
  have hdown : ∀ {t u : Statement}, t ∈ ss → u ∈ t.inner → u ∈ ss.flatMap inner :=
    fun ht hu => List.mem_flatMap.2 ⟨_, ht, hu⟩
  constructor
  · intro h
    cases h with
    | here mem => exact Or.inl mem
    | inFunction mem inside => exact Or.inr (inside.mono fun _ => hdown mem)
    | inCompound mem inside => exact Or.inr (inside.mono fun _ => hdown mem)
  · rintro (mem | h)
    · exact .here mem
    · cases h with
      | here mem =>
          obtain ⟨t, ht, hs⟩ := List.mem_flatMap.1 mem
          exact .of_inner ht (.here hs)
      | inFunction mem inside =>
          obtain ⟨t, ht, hs⟩ := List.mem_flatMap.1 mem
          exact .of_inner ht (.inFunction hs inside)
      | inCompound mem inside =>
          obtain ⟨t, ht, hs⟩ := List.mem_flatMap.1 mem
          exact .of_inner ht (.inCompound hs inside)

/-! ## The walk through a script -/

/-- A statement is one level deeper than what stands inside it. -/
theorem depth_eq (s : Statement) : depth s = depthOf s.inner + 1 := by
  cases s <;> rfl

/-- Statements are as deep as the deepest of them. -/
theorem depthOf_le_iff : depthOf ss ≤ n ↔ ∀ s ∈ ss, depth s ≤ n := by
  induction ss with
  | nil => simp [depthOf]
  | cons s ss ih => rw [depthOf, Nat.max_le, ih, List.forall_mem_cons]

/-- One level further down there is one level less. -/
theorem depthOf_flatMap_inner (deep : depthOf ss ≤ n + 1) : depthOf (ss.flatMap inner) ≤ n := by
  rw [depthOf_le_iff]
  intro u hu
  obtain ⟨t, ht, hu⟩ := List.mem_flatMap.1 hu
  have htop := depthOf_le_iff.1 deep t ht
  rw [depth_eq, Nat.add_le_add_iff_right] at htop
  exact depthOf_le_iff.1 htop u hu

/-- As many levels as statements are deep hold what occurs among them, and nothing else. -/
theorem mem_levels_iff (deep : depthOf ss ≤ n) : s ∈ levels n ss ↔ Occurs s ss := by
  induction n generalizing ss with
  | zero =>
      have hempty : ss = [] := by
        refine List.eq_nil_iff_forall_not_mem.2 fun t ht => ?_
        have htop := depthOf_le_iff.1 deep t ht
        rw [depth_eq] at htop
        exact Nat.not_succ_le_zero _ htop
      rw [hempty]
      refine iff_of_false List.not_mem_nil fun h => ?_
      rcases h with hmem | hmem | hmem <;> cases hmem
  | succ n ih =>
      rw [levels, List.mem_append, ih (depthOf_flatMap_inner deep), ← occurs_iff]

/-- **The walk through a script.**  It comes to the statements that occur in the script, however
deep they stand, and to no others. -/
theorem mem_walk_iff : s ∈ walk ss ↔ Occurs s ss := mem_levels_iff (Nat.le_refl _)

end Statement

/-! ## Modules -/

/-- A module may be imported: it is one of those that are allowed, or it belongs to one of them. -/
def Allowed (name : String) : Prop :=
  ∃ m ∈ allowedModules, name = m ∨ ∃ rest, name = m ++ "." ++ rest

/-- A name is looked up by its part before the first point. -/
theorem isAllowed_iff {name : String} : isAllowed name = true ↔ Allowed name := by
  have hplain : ∀ m ∈ allowedModules, ∀ c ∈ m.toList, (c != '.') = true := by
    have hall : (allowedModules.all fun m => m.toList.all (· != '.')) = true := by decide
    exact fun m hm => List.all_eq_true.1 (List.all_eq_true.1 hall m hm)
  rw [isAllowed, List.contains_iff_mem]
  constructor
  · intro h
    refine ⟨_, h, ?_⟩
    have hsplit := List.takeWhile_append_dropWhile (p := (· != '.')) (l := name.toList)
    have hpoint := List.head?_dropWhile_not (· != '.') name.toList
    cases hrest : name.toList.dropWhile (· != '.') with
    | nil =>
        rw [hrest, List.append_nil] at hsplit
        rw [hsplit, String.ofList_toList]
        exact Or.inl rfl
    | cons c rest =>
        rw [hrest] at hsplit hpoint
        have hc : c = '.' := by simpa using hpoint
        refine Or.inr ⟨String.ofList rest, String.toList_injective ?_⟩
        have hdot : ".".toList = ['.'] := rfl
        rw [String.toList_append, String.toList_append, hdot, String.toList_ofList,
          String.toList_ofList, List.append_assoc]
        exact (hc ▸ hsplit).symm
  · rintro ⟨m, hm, hname⟩
    have hpart : name.toList.takeWhile (· != '.') = m.toList := by
      rcases hname with rfl | ⟨rest, rfl⟩
      · rw [← List.append_nil name.toList, List.takeWhile_append_of_pos (hplain name hm),
          List.takeWhile_nil]
      · rw [String.toList_append, String.toList_append, List.append_assoc,
          List.takeWhile_append_of_pos (hplain m hm)]
        exact List.append_nil _
    rw [hpart, String.ofList_toList]
    exact hm

/-- Only points are no allowed module. -/
theorem not_allowed_points (n : Nat) (h : n ≠ 0) :
    isAllowed (String.ofList (List.replicate n '.')) = false := by
  obtain ⟨k, rfl⟩ := Nat.exists_eq_succ_of_ne_zero h
  rw [isAllowed, String.toList_ofList, List.replicate_succ, List.takeWhile_cons_of_neg (by decide)]
  decide

/-- A statement imports nothing but allowed modules, each by its full name. -/
def Statement.Harmless : Statement → Prop
  | importNames names => ∀ name ∈ names, Allowed name
  | importFrom points name => points = 0 ∧ Allowed name
  | _ => True

/-- The names that are looked up for a statement are all allowed if it is harmless. -/
theorem Statement.harmless_iff {s : Statement} :
    s.Harmless ↔ ∀ name ∈ s.imports, isAllowed name = true := by
  cases s with
  | importNames names => exact forall₂_congr fun name _ => isAllowed_iff.symm
  | importFrom points name =>
      rw [Harmless, imports, List.forall_mem_singleton]
      by_cases h : points = 0
      · rw [if_pos h, isAllowed_iff]
        exact and_iff_right h
      · rw [if_neg h, not_allowed_points points h]
        exact iff_of_false (fun hboth => h hboth.1) Bool.false_ne_true
  | _ => simp [Harmless, imports]

/-! ## Scripts -/

section Scripts

open Statement

variable {ss : List Statement}

/-- No import is forbidden if all statements that occur are harmless. -/
theorem forbidden?_eq_none_iff : forbidden? ss = none ↔ ∀ s, Occurs s ss → s.Harmless := by
  rw [forbidden?, List.find?_eq_none]
  constructor
  · intro h s hs
    refine harmless_iff.2 fun name hname => ?_
    simpa using h name (List.mem_flatMap.2 ⟨s, mem_walk_iff.2 hs, hname⟩)
  · intro h name hname
    obtain ⟨s, hs, hname⟩ := List.mem_flatMap.1 hname
    simpa using harmless_iff.1 (h s (mem_walk_iff.1 hs)) name hname

/-- The import that is reported occurs in the script, and is not allowed. -/
theorem of_forbidden?_eq_some {m : String} (h : forbidden? ss = some m) :
    ∃ s, Occurs s ss ∧ m ∈ s.imports ∧ ¬ Allowed m := by
  obtain ⟨s, hs, hm⟩ := List.mem_flatMap.1 (List.mem_of_find?_eq_some h)
  refine ⟨s, mem_walk_iff.1 hs, hm, ?_⟩
  rw [← isAllowed_iff]
  simpa using List.find?_some h

/-- The function that is called has to be defined at the top. -/
theorem definesCheck_iff : definesCheck ss = true ↔ ∃ body, .function "check" body ∈ ss := by
  rw [definesCheck, List.any_eq_true]
  constructor
  · rintro ⟨s, hs, hdefines⟩
    cases s with
    | function name body =>
        have hname : name = "check" := by simpa [defines, requiredFunction] using hdefines
        exact ⟨body, hname ▸ hs⟩
    | _ => cases hdefines
  · rintro ⟨body, hs⟩
    exact ⟨_, hs, beq_self_eq_true "check"⟩

end Scripts

/-- A script is well-formed, and these are its statements. -/
structure Parses (script : Value) (ss : List Statement) : Prop where
  /-- It is a text, or bytes. -/
  written : script.isText = true ∨ ∃ bs, script = .bytes bs
  /-- It has no half and no null character. -/
  plain : unread? script = none
  /-- Its characters are read as the statements. -/
  read : ∃ cs, charactersOf script = .ok cs ∧ statementsOf cs = .ok ss

end Python

open Python Statement

/-- What is wrong with a script that is well-formed is what is wrong with its statements. -/
theorem readScript_of_parses (g : Setting) (name : Value) {script : Value} {ss : List Statement}
    (parsed : Parses script ss) : readScript g .python script name = match defectOf? ss with
      | none => .ok ()
      | some defect => .error (.rule defect name) := by
  obtain ⟨cs, hcs, hss⟩ := parsed.read
  have hdefect : defect? script = .ok (defectOf? ss) := by
    rw [defect?, parsed.plain]
    simp only [hcs, hss]
  unfold readScript
  simp only [hdefect]
  cases defectOf? ss <;> rfl

/-- **What a script may import.**  A well-formed script is accepted if and only if all imports in it,
however deep they stand, are by full names and of allowed modules, and it defines the function that
is called at the top.  Otherwise it is refused as a rule: for an import that is not allowed
whatever else is in it, and else because the function is missing. -/
theorem readScript_python_iff (g : Setting) (name : Value) {script : Value} {ss : List Statement}
    (parsed : Parses script ss) :
    (readScript g .python script name = .ok () ↔
      (∀ s, Occurs s ss → s.Harmless) ∧ ∃ body, .function "check" body ∈ ss) ∧
    ((∃ s, Occurs s ss ∧ ¬ s.Harmless) → ∃ s m, Occurs s ss ∧ m ∈ s.imports ∧ ¬ Allowed m ∧
      readScript g .python script name = .error (.rule (.forbiddenImport m) name)) ∧
    ((¬ ∃ body, .function "check" body ∈ ss) → ∃ defect,
      readScript g .python script name = .error (.rule defect name) ∧
        ((∀ s, Occurs s ss → s.Harmless) → defect = .missingCheck)) := by
  rw [readScript_of_parses g name parsed, ← forbidden?_eq_none_iff, ← definesCheck_iff, defectOf?]
  cases hforbidden : forbidden? ss with
  | some m =>
      obtain ⟨s, hs, hm, hnot⟩ := of_forbidden?_eq_some hforbidden
      refine ⟨iff_of_false nofun nofun, fun _ => ⟨s, m, hs, hm, hnot, rfl⟩, fun _ => ?_⟩
      exact ⟨_, rfl, nofun⟩
  | none =>
      have hharmless := forbidden?_eq_none_iff.1 hforbidden
      refine ⟨?_, fun ⟨s, hs, hnot⟩ => absurd (hharmless s hs) hnot, fun hmissing => ?_⟩
      · cases definesCheck ss <;> simp
      · rw [Bool.not_eq_true] at hmissing
        rw [hmissing]
        exact ⟨_, rfl, fun _ => rfl⟩

/-- What is found in the statements of a script: an import that is not allowed, and the function
that is called. -/
def Python.findings (ss : List Python.Statement) : Option String × Bool :=
  (forbidden? ss, definesCheck ss)

/-- A text in whose statements something is found is well-formed. -/
theorem Python.exists_parses {s : String} {m : Option String} {b : Bool}
    (plain : unread? (.text s) = none)
    (found : (statementsOf s.toList).toOption.map findings = some (m, b)) :
    ∃ ss, Parses (.text s) ss ∧ forbidden? ss = m ∧ definesCheck ss = b := by
  cases hss : statementsOf s.toList with
  | error d =>
      rw [hss] at found
      cases found
  | ok ss =>
      rw [hss] at found
      cases found
      exact ⟨ss, ⟨Or.inl rfl, plain, s.toList, rfl, hss⟩, rfl, rfl⟩

/-- A script that imports a module in the function that is called, too. -/
def mildScript : String :=
  "import re\nasync def check(d):\n  from math import pi\n"

/-- A script with a relative import in the function that is called. -/
def relativeScript : String :=
  "def check(d):\n  try:\n    from . import os\n  finally:\n    pass\n"

/-- A script with a function of the right name in a class. -/
def methodScript : String := "class Rules:\n  def check(self): pass\n"

/-- The first script is accepted, and the others are refused: for the import in the second one, and
because nothing is defined at the top of the third one. -/
theorem readScript_python_of_scripts :
    readScript noInterpreters .python (.text mildScript) .null = .ok () ∧
    (∃ m, readScript noInterpreters .python (.text relativeScript) .null =
      .error (.rule (.forbiddenImport m) .null)) ∧
    readScript noInterpreters .python (.text methodScript) .null =
      .error (.rule .missingCheck .null) := by
  refine ⟨?_, ?_, ?_⟩
  · have hfound : (statementsOf mildScript.toList).toOption.map findings = some (none, true) := by
      decide +kernel
    obtain ⟨ss, hparsed, hforbidden, hdefines⟩ := exists_parses (by decide +kernel) hfound
    exact (readScript_python_iff noInterpreters .null hparsed).1.2
      ⟨forbidden?_eq_none_iff.1 hforbidden, definesCheck_iff.1 hdefines⟩
  · have hfound : (statementsOf relativeScript.toList).toOption.map findings =
        some (some ".", true) := by decide +kernel
    obtain ⟨ss, hparsed, hforbidden, _⟩ := exists_parses (by decide +kernel) hfound
    obtain ⟨s, hs, hm, hnot⟩ := of_forbidden?_eq_some hforbidden
    have hharmful : ¬ s.Harmless := by
      intro hharmless
      exact hnot (isAllowed_iff.1 (harmless_iff.1 hharmless _ hm))
    obtain ⟨_, m, _, _, _, hrefused⟩ :=
      (readScript_python_iff noInterpreters .null hparsed).2.1 ⟨s, hs, hharmful⟩
    exact ⟨m, hrefused⟩
  · have hfound : (statementsOf methodScript.toList).toOption.map findings =
        some (none, false) := by decide +kernel
    obtain ⟨ss, hparsed, hforbidden, hmissing⟩ := exists_parses (by decide +kernel) hfound
    rw [← Bool.not_eq_true, definesCheck_iff] at hmissing
    obtain ⟨_, hrefused, hcause⟩ :=
      (readScript_python_iff noInterpreters .null hparsed).2.2 hmissing
    rw [hrefused, hcause (forbidden?_eq_none_iff.1 hforbidden)]

end ConfigAudit
