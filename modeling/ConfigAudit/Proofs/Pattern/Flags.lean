/-
# Flags for lines

Two flags say how a pattern sees lines: whether its anchors hold at inner lines, and whether the
dot stands for line feeds.  They choose the tests of an expression and nothing else, so a pattern
is read, or refused, whatever these two flags are.

* `Flags.Alike` : flags that differ in these two at most;
* `Agrees` : two ways of reading that take the same course;
* `exists_read_of_alike` : what can be read under flags can be read under flags that are alike.
-/
import Mathlib.Data.List.Forall2
import ConfigAudit.Pattern.Reader

namespace ConfigAudit.Pattern

/-! ## Flags that are alike -/

/-- Flags that differ at most in how lines are seen. -/
def Flags.Alike (f g : Flags) : Prop :=
  ∃ multiline dotAll, g = { f with multiline := multiline, dotAll := dotAll }

namespace Flags.Alike

variable {f g : Flags}

/-- Flags are like themselves. -/
theorem refl (f : Flags) : f.Alike f := ⟨f.multiline, f.dotAll, rfl⟩

/-- Blanks and comments are skipped under both, or under neither. -/
theorem verbose_eq (h : f.Alike g) : f.verbose = g.verbose := by
  obtain ⟨m, d, rfl⟩ := h
  rfl

/-- Flags that are turned on keep flags alike. -/
theorem union (h : f.Alike g) (on : Flags) : (f.union on).Alike (g.union on) := by
  obtain ⟨m, d, rfl⟩ := h
  exact ⟨m || on.multiline, d || on.dotAll, rfl⟩

/-- Flags of a part keep flags alike. -/
theorem adjust (h : f.Alike g) (on off : Flags) : (f.adjust on off).Alike (g.adjust on off) := by
  obtain ⟨m, d, rfl⟩ := h
  exact ⟨_, _, rfl⟩

/-- A character is read in the same way. -/
theorem literal_eq (h : f.Alike g) (n : Nat) : Part.literal f n = Part.literal g n := by
  obtain ⟨m, d, rfl⟩ := h
  rfl

/-- So is an escape. -/
theorem partOfEscape_eq (h : f.Alike g) (e : Escaped) : partOfEscape f e = partOfEscape g e := by
  obtain ⟨m, d, rfl⟩ := h
  rfl

/-- So is a member of a set. -/
theorem setMember_eq (h : f.Alike g) : setMember f = setMember g := by
  obtain ⟨m, d, rfl⟩ := h
  rfl

/-- So are all members of a set. -/
theorem setMembers_eq (h : f.Alike g) (start fuel : Nat) (acc : List Item) :
    setMembers f start fuel acc = setMembers g start fuel acc := by
  induction fuel generalizing acc with
  | zero => rfl
  | succ fuel ih =>
      rw [setMembers, setMembers, h.setMember_eq]
      simp only [ih]

/-- So is a set. -/
theorem setOf_eq (h : f.Alike g) : setOf f = setOf g := by
  unfold setOf
  simp only [h.setMembers_eq]
  obtain ⟨m, d, rfl⟩ := h
  rfl

/-- So is a reference by name. -/
theorem namedReference_eq (h : f.Alike g) : namedReference f = namedReference g := by
  unfold namedReference
  simp only [h.partOfEscape_eq]

/-- So is the opening of a group. -/
theorem openingOf_eq (h : f.Alike g) (start : Nat) : openingOf f start = openingOf g start := by
  unfold openingOf
  rw [h.namedReference_eq]

end Flags.Alike

/-! ## Members that are alike -/

/-- Members that differ at most in their tests: what later members need to know of them is the
same, and so is what keeps them from being used. -/
structure Part.Alike (p q : Part) : Prop where
  /-- They are of one width. -/
  width : p.width = q.width
  /-- They play one role. -/
  role : p.role = q.role
  /-- They are made of the same sets. -/
  sets : p.sets = q.sets
  /-- They can be used in the same patterns. -/
  defect : ∀ template, p.node.defect? template = q.node.defect? template

namespace Part.Alike

variable {p q : Part} {ps qs : List Part}

/-- A member is like itself. -/
theorem refl (p : Part) : p.Alike p := ⟨rfl, rfl, rfl, fun _ => rfl⟩

/-- Repetitions are alike if what they repeat is. -/
theorem loop (h : p.Alike q) (mode : Mode) (least : Nat) (most : Option Nat) :
    (Part.loop mode least most p).Alike (Part.loop mode least most q) where
  width := congrArg (Width.times least most) h.width
  role := rfl
  sets := rfl
  defect template := by
    rw [Part.loop, Part.loop, Node.defect?, Node.defect?, h.defect]

/-- Members in a row have the defects of the members. -/
theorem defect_ofList (h : List.Forall₂ Part.Alike ps qs) (template : Bool) :
    (Node.ofList (ps.map (·.node))).defect? template =
      (Node.ofList (qs.map (·.node))).defect? template := by
  induction h with
  | nil => rfl
  | cons first others ih =>
      cases others with
      | nil => exact first.defect template
      | cons second others =>
          simp only [List.map_cons, Node.ofList, Node.defect?] at ih ⊢
          rw [first.defect, ih]

/-- So have alternatives. -/
theorem defect_oneOf (h : List.Forall₂ Part.Alike ps qs) (template : Bool) :
    (Node.oneOf (ps.map (·.node))).defect? template =
      (Node.oneOf (qs.map (·.node))).defect? template := by
  induction h with
  | nil => rfl
  | cons first others ih =>
      cases others with
      | nil => exact first.defect template
      | cons second others =>
          simp only [List.map_cons, Node.oneOf, Node.defect?] at ih ⊢
          rw [first.defect, ih]

/-- The widths of members that are alike are the same. -/
theorem map_width (h : List.Forall₂ Part.Alike ps qs) :
    ps.map (·.width) = qs.map (·.width) := by
  induction h with
  | nil => rfl
  | cons first _ ih => rw [List.map_cons, List.map_cons, first.width, ih]

/-- The sets of members that are alike are the same. -/
theorem map_sets (h : List.Forall₂ Part.Alike ps qs) : ps.map (·.sets) = qs.map (·.sets) := by
  induction h with
  | nil => rfl
  | cons first _ ih => rw [List.map_cons, List.map_cons, first.sets, ih]

/-- Members that are alike are the same plain sets. -/
theorem map_plainSet? (h : List.Forall₂ Part.Alike ps qs) :
    ps.map Part.plainSet? = qs.map Part.plainSet? := by
  induction h with
  | nil => rfl
  | cons first _ ih =>
      rw [List.map_cons, List.map_cons, ih, Part.plainSet?, Part.plainSet?, first.sets]

/-- Members in a row are alike if the members are. -/
theorem sequence (h : List.Forall₂ Part.Alike ps qs) :
    (Part.sequence ps).Alike (Part.sequence qs) where
  width := by
    have hfold : ∀ (ps : List Part) (w : Width), ps.foldl (fun w p => w.add p.width) w =
        (ps.map (·.width)).foldl Width.add w := fun ps w => List.foldl_map.symm
    rw [Part.sequence, Part.sequence, hfold, hfold, map_width h]
  role := rfl
  sets := by
    have hflat : ∀ ps : List Part, ps.flatMap (·.sets) = (ps.map (·.sets)).flatten :=
      fun ps => List.flatMap_def
    rw [Part.sequence, Part.sequence, hflat, hflat, map_sets h]
  defect := defect_ofList h

/-- Alternatives are alike if the members are. -/
theorem alternatives {f g : Flags} (flags : f.Alike g) (h : List.Forall₂ Part.Alike ps qs) :
    (Part.alternatives f ps).Alike (Part.alternatives g qs) := by
  obtain ⟨m, d, rfl⟩ := flags
  have hsets := map_plainSet? h
  have hdefect := defect_oneOf h
  cases h with
  | nil => exact refl _
  | cons first others =>
      cases others with
      | nil => exact first
      | cons second others =>
          have hfold : ∀ (ps : List Part) (w : Width),
              ps.foldl (fun w q => w.either q.width) w =
                (ps.map (·.width)).foldl Width.either w := fun ps w => List.foldl_map.symm
          have hwidth := map_width (.cons second others)
          simp only [Part.alternatives]
          rw [hsets]
          split
          · exact refl _
          · refine ⟨?_, rfl, rfl, hdefect⟩
            change List.foldl _ _ _ = List.foldl _ _ _
            rw [hfold, hfold, first.width, hwidth]

end Part.Alike

/-! ## Ways of reading that agree -/

/-- Two ways of reading agree if, from every cursor, they fail with the same fault, or they come to
the same cursor with answers that are related. -/
def Agrees {α β : Type} (R : α → β → Prop) (x : Reading α) (y : Reading β) : Prop :=
  ∀ c, (∃ e, x c = .error e ∧ y c = .error e) ∨
    ∃ a b d, x c = .ok (a, d) ∧ y c = .ok (b, d) ∧ R a b

namespace Agrees

variable {α β γ δ : Type} {R : α → β → Prop} {S : γ → δ → Prop}

/-- A way of reading agrees with itself. -/
theorem refl {R : α → α → Prop} (h : ∀ a, R a a) (x : Reading α) : Agrees R x x := by
  intro c
  cases hx : x c with
  | error e => exact Or.inl ⟨e, rfl, rfl⟩
  | ok p => exact Or.inr ⟨p.1, p.1, p.2, rfl, rfl, h p.1⟩

/-- Related answers agree. -/
theorem pure {a : α} {b : β} (h : R a b) : Agrees R (pure a) (pure b) :=
  fun c => Or.inr ⟨a, b, c, rfl, rfl, h⟩

/-- Ways that agree, and that go on in ways that agree, agree. -/
theorem bind {x : Reading α} {y : Reading β} {f : α → Reading γ} {g : β → Reading δ}
    (hx : Agrees R x y) (hf : ∀ a b, R a b → Agrees S (f a) (g b)) :
    Agrees S (x >>= f) (y >>= g) := by
  intro c
  have hbind : ∀ {α γ : Type} (x : Reading α) (f : α → Reading γ),
      (x >>= f) c = (x c >>= fun p => f p.1 p.2) := fun _ _ => rfl
  rw [hbind, hbind]
  rcases hx c with ⟨e, he, he'⟩ | ⟨a, b, d, ha, hb, hR⟩
  · rw [he, he']
    exact Or.inl ⟨e, rfl, rfl⟩
  · rw [ha, hb]
    exact hf a b hR d

/-- What is done first may be the same. -/
theorem same {x : Reading α} {f : α → Reading γ} {g : α → Reading δ}
    (hf : ∀ a, Agrees S (f a) (g a)) : Agrees S (x >>= f) (x >>= g) := by
  refine bind (refl (R := Eq) (fun _ => rfl) x) ?_
  rintro a _ rfl
  exact hf a

/-- Ways that agree may be chosen by the same condition. -/
theorem ite {p : Prop} [Decidable p] {x x' : Reading γ} {y y' : Reading δ}
    (hx : Agrees S x y) (hx' : Agrees S x' y') :
    Agrees S (if p then x else x') (if p then y else y') := by
  split
  · exact hx
  · exact hx'

end Agrees

/-! ## Reading under flags that are alike -/

/-- Members and the flags behind them that are alike. -/
def AlikeBehind (a b : Part × Flags) : Prop := a.1.Alike b.1 ∧ a.2.Alike b.2

/-- A member and the flags behind it are like themselves. -/
theorem AlikeBehind.refl (a : Part × Flags) : AlikeBehind a a := ⟨.refl _, .refl _⟩

/-- The last member is repeated in the same way. -/
theorem agrees_repeatLast {ps qs : List Part} (h : List.Forall₂ Part.Alike ps qs)
    (start least : Nat) (most : Option Nat) :
    Agrees (List.Forall₂ Part.Alike) (repeatLast start least most ps)
      (repeatLast start least most qs) := by
  unfold repeatLast
  cases h with
  | nil => exact .refl (fun ps => List.forall₂_same.2 fun p _ => .refl p) _
  | @cons p q ps qs first others =>
      have hloop : Agrees (List.Forall₂ Part.Alike)
          (modeOf >>= fun mode => Pure.pure (Part.loop mode least most p :: ps))
          (modeOf >>= fun mode => Pure.pure (Part.loop mode least most q :: qs)) :=
        .same fun mode => .pure (.cons (first.loop mode least most) others)
      dsimp only
      rw [first.role]
      exact .ite (.same fun _ => .ite (.same fun _ => hloop) hloop)
        (.ite (.same fun _ => hloop) hloop)

/-- Members that are read alike. -/
inductive Member.Alike : Member → Member → Prop
  /-- No member is left. -/
  | none : Alike .none .none
  /-- Something is skipped. -/
  | skipped : Alike .skipped .skipped
  /-- Complete members. -/
  | part {p q : Part} (alike : p.Alike q) : Alike (.part p) (.part q)
  /-- Repetition. -/
  | repeated (start least : Nat) (most : Option Nat) :
      Alike (.repeated start least most) (.repeated start least most)
  /-- Flags of the whole pattern. -/
  | global (start : Nat) (on : Flags) : Alike (.global start on) (.global start on)
  /-- A group. -/
  | group (start : Nat) (opening : Opening) : Alike (.group start opening) (.group start opening)

/-- A member is like itself. -/
theorem Member.Alike.refl (m : Member) : m.Alike m := by
  cases m with
  | none => exact .none
  | skipped => exact .skipped
  | part p => exact .part (.refl p)
  | repeated start least most => exact .repeated start least most
  | global start on => exact .global start on
  | group start opening => exact .group start opening

/-- A single character is read alike. -/
theorem agrees_memberOfSign {f g : Flags} (flags : f.Alike g) (c : Char) :
    Agrees Member.Alike (memberOfSign f c) (memberOfSign g c) := by
  unfold memberOfSign
  refine .same fun start => .same fun _ => ?_
  rw [flags.verbose_eq, flags.literal_eq]
  refine .ite (.refl .refl _) (.ite (.refl .refl _) (.ite (.refl .refl _) (.ite ?_ (.ite ?_ ?_))))
  · exact .pure (.part ⟨rfl, rfl, rfl, fun _ => rfl⟩)
  · exact .pure (.part ⟨rfl, rfl, rfl, fun _ => rfl⟩)
  · exact .refl .refl _

/-- What comes next is read alike. -/
theorem agrees_nextMember {f g : Flags} (flags : f.Alike g) :
    Agrees Member.Alike (nextMember f) (nextMember g) := by
  unfold nextMember
  rw [funext flags.partOfEscape_eq, flags.setOf_eq, funext flags.openingOf_eq]
  refine .same fun t => ?_
  split
  · exact .refl .refl _
  · rename_i c
    refine .ite (.refl .refl _) (.ite (.refl .refl _) (.ite (.refl .refl _) ?_))
    exact agrees_memberOfSign flags c
  · exact .refl .refl _
  · exact .refl .refl _

/-- The readers of a pattern agree under flags that are alike, as far as their recursion is
bounded. -/
structure ReadsAlike (fuel : Nat) : Prop where
  /-- The reader of alternatives. -/
  alternatives : ∀ outer f g, f.Alike g →
    Agrees AlikeBehind (alternatives fuel outer f) (alternatives fuel outer g)
  /-- The reader of the alternatives behind the first. -/
  branches : ∀ f g ps qs, f.Alike g → List.Forall₂ Part.Alike ps qs →
    Agrees Part.Alike (branches fuel f ps) (branches fuel g qs)
  /-- The reader of members. -/
  sequence : ∀ first f g ps qs, f.Alike g → List.Forall₂ Part.Alike ps qs →
    Agrees AlikeBehind (sequence fuel first f ps) (sequence fuel first g qs)
  /-- The reader of groups. -/
  group : ∀ f g start opening, f.Alike g →
    Agrees Part.Alike (group fuel f start opening) (group fuel g start opening)

/-- Without recursion nothing is read. -/
theorem readsAlike_zero : ReadsAlike 0 where
  alternatives outer f g _ := by
    rw [alternatives, alternatives]
    exact .refl .refl _
  branches f g ps qs _ _ := by
    rw [branches, branches]
    exact .refl .refl _
  sequence first f g ps qs _ _ := by
    rw [sequence, sequence]
    exact .refl .refl _
  group f g start opening _ := by
    rw [group, group]
    exact .refl .refl _

namespace ReadsAlike

variable {fuel : Nat} {f g : Flags} {ps qs : List Part}

/-- Alternatives are read alike if what they are made of is. -/
theorem alternatives_succ (ih : ReadsAlike fuel) (flags : f.Alike g) (outer : Bool) :
    Agrees AlikeBehind (Pattern.alternatives (fuel + 1) outer f)
      (Pattern.alternatives (fuel + 1) outer g) := by
  rw [Pattern.alternatives, Pattern.alternatives]
  refine (ih.sequence outer f g [] [] flags .nil).bind ?_
  rintro ⟨p, f'⟩ ⟨q, g'⟩ ⟨hpart, hflags⟩
  refine (ih.branches f' g' [p] [q] hflags (.cons hpart .nil)).bind ?_
  intro p' q' hpart'
  exact .pure ⟨hpart', hflags⟩

/-- So are the alternatives behind the first. -/
theorem branches_succ (ih : ReadsAlike fuel) (flags : f.Alike g)
    (h : List.Forall₂ Part.Alike ps qs) :
    Agrees Part.Alike (Pattern.branches (fuel + 1) f ps) (Pattern.branches (fuel + 1) g qs) := by
  rw [Pattern.branches, Pattern.branches]
  refine .same fun more => .ite ?_ ?_
  · refine (ih.sequence false f g [] [] flags .nil).bind ?_
    rintro ⟨p, f'⟩ ⟨q, g'⟩ ⟨hpart, _⟩
    exact ih.branches f g _ _ flags (.cons hpart h)
  · exact .pure (.alternatives flags (List.rel_reverse h))

/-- So are members. -/
theorem sequence_succ (ih : ReadsAlike fuel) (flags : f.Alike g)
    (h : List.Forall₂ Part.Alike ps qs) (first : Bool) :
    Agrees AlikeBehind (Pattern.sequence (fuel + 1) first f ps)
      (Pattern.sequence (fuel + 1) first g qs) := by
  have hdone : AlikeBehind (Part.sequence ps.reverse, f) (Part.sequence qs.reverse, g) :=
    ⟨.sequence (List.rel_reverse h), flags⟩
  -- a member that is read alike is followed by others that are
  have hnext : ∀ p q, p.Alike q → Agrees AlikeBehind (Pattern.sequence fuel first f (p :: ps))
      (Pattern.sequence fuel first g (q :: qs)) :=
    fun p q hpq => ih.sequence first f g _ _ flags (.cons hpq h)
  rw [Pattern.sequence, Pattern.sequence]
  refine (agrees_nextMember flags).bind ?_
  intro a b hab
  cases hab with
  | none => exact .pure hdone
  | skipped => exact ih.sequence first f g ps qs flags h
  | part alike => exact hnext _ _ alike
  | repeated start least most =>
      refine (agrees_repeatLast h start least most).bind ?_
      intro ps' qs' h'
      exact ih.sequence first f g ps' qs' flags h'
  | global start on =>
      have hglobal := ih.sequence first _ _ ps qs (flags.union on) h
      have hempty : ps.isEmpty = qs.isEmpty := by cases h <;> rfl
      dsimp only
      rw [hempty]
      exact .ite (.same fun _ => hglobal) hglobal
  | group start opening => exact (ih.group f g start opening flags).bind hnext

/-- So are looks at what follows or precedes. -/
theorem group_look (ih : ReadsAlike fuel) (flags : f.Alike g) (start : Nat)
    (behind negated : Bool) :
    Agrees Part.Alike (Pattern.group (fuel + 1) f start (.look behind negated))
      (Pattern.group (fuel + 1) g start (.look behind negated)) := by
  rw [Pattern.group, Pattern.group]
  refine .same fun outermost => (ih.alternatives false f g flags).bind ?_
  rintro ⟨p, _⟩ ⟨q, _⟩ ⟨hpart, _⟩
  refine .same fun _ => .same fun _ => .pure ⟨rfl, rfl, rfl, fun template => ?_⟩
  dsimp only at hpart ⊢
  cases behind with
  | false => exact hpart.defect template
  | true =>
      rw [if_pos rfl, if_pos rfl, Part.of, Part.of, Node.defect?, Node.defect?, hpart.width,
        hpart.defect]

/-- So are conditions. -/
theorem group_condition (ih : ReadsAlike fuel) (flags : f.Alike g) (start : Nat) :
    Agrees Part.Alike (Pattern.group (fuel + 1) f start .condition)
      (Pattern.group (fuel + 1) g start .condition) := by
  have hbranch := ih.sequence false f g [] [] flags .nil
  rw [Pattern.group, Pattern.group]
  refine .same fun number => hbranch.bind ?_
  rintro ⟨p, _⟩ ⟨q, _⟩ ⟨hyes, _⟩
  dsimp only at hyes ⊢
  rw [hyes.width]
  refine .same fun more => .ite (hbranch.bind ?_) ?_
  · rintro ⟨p', _⟩ ⟨q', _⟩ ⟨hno, _⟩
    dsimp only at hno ⊢
    have hboth : Part.Alike (Part.of (.choose number p.node p'.node) (q.width.either p'.width))
        (Part.of (.choose number q.node q'.node) (q.width.either q'.width)) := by
      refine ⟨congrArg (Width.either q.width) hno.width, rfl, rfl, fun template => ?_⟩
      rw [Part.of, Part.of, Node.defect?, Node.defect?, hyes.defect, hno.defect]
    refine .same fun _ => .ite ?_ ?_
    · exact .same fun _ => .same fun _ => .pure hboth
    · exact .same fun _ => .pure hboth
  · refine .same fun _ => .pure ⟨rfl, rfl, rfl, fun template => ?_⟩
    rw [Part.of, Part.of, Node.defect?, Node.defect?, hyes.defect]

/-- So are groups of all kinds. -/
theorem group_succ (ih : ReadsAlike fuel) (flags : f.Alike g) (start : Nat) (opening : Opening) :
    Agrees Part.Alike (Pattern.group (fuel + 1) f start opening)
      (Pattern.group (fuel + 1) g start opening) := by
  have hbody := ih.alternatives false f g flags
  cases opening with
  | capture name =>
      rw [Pattern.group, Pattern.group]
      refine .same fun number => hbody.bind ?_
      rintro ⟨p, _⟩ ⟨q, _⟩ ⟨hpart, _⟩
      dsimp only at hpart ⊢
      rw [hpart.width]
      exact .same fun _ => .same fun _ => .pure ⟨rfl, rfl, rfl, hpart.defect⟩
  | atomic =>
      rw [Pattern.group, Pattern.group]
      refine hbody.bind ?_
      rintro ⟨p, _⟩ ⟨q, _⟩ ⟨hpart, _⟩
      exact .same fun _ => .pure ⟨hpart.width, rfl, rfl, hpart.defect⟩
  | flags on off =>
      rw [Pattern.group, Pattern.group]
      refine (ih.alternatives false _ _ (flags.adjust on off)).bind ?_
      rintro ⟨p, _⟩ ⟨q, _⟩ ⟨hpart, _⟩
      dsimp only at hpart ⊢
      rw [hpart.sets]
      exact .same fun _ => .pure ⟨hpart.width, rfl, rfl, hpart.defect⟩
  | look behind negated => exact ih.group_look flags start behind negated
  | condition => exact ih.group_condition flags start
  | part p =>
      rw [Pattern.group, Pattern.group]
      exact .pure (.refl p)
  | nothing =>
      rw [Pattern.group, Pattern.group]
      exact .pure (.refl _)
  | global on =>
      rw [Pattern.group, Pattern.group]
      exact .pure (.refl _)

/-- However far they recur, the readers agree. -/
theorem all (fuel : Nat) : ReadsAlike fuel := by
  induction fuel with
  | zero => exact readsAlike_zero
  | succ fuel ih =>
      exact {
        alternatives := fun outer f g flags => ih.alternatives_succ flags outer
        branches := fun f g ps qs flags h => ih.branches_succ flags h
        sequence := fun first f g ps qs flags h => ih.sequence_succ flags h first
        group := fun f g start opening flags => ih.group_succ flags start opening }

end ReadsAlike

/-! ## Whole patterns -/

/-- Expressions that can be used in the same patterns. -/
def Node.SameDefects (m n : Node) : Prop := ∀ template, m.defect? template = n.defect? template

/-- Whole patterns are read alike. -/
theorem agrees_wholePattern {f g : Flags} (flags : f.Alike g) :
    Agrees Node.SameDefects (wholePattern f) (wholePattern g) := by
  unfold wholePattern
  refine .same fun _ => .same fun opened => ((ReadsAlike.all _).alternatives true f g flags).bind ?_
  rintro ⟨p, f'⟩ ⟨q, g'⟩ ⟨hpart, m, d, rfl⟩
  dsimp only at hpart ⊢
  rw [hpart.defect]
  refine .same fun _ => ?_
  split
  · exact .refl (fun _ _ => rfl) _
  · exact .pure hpart.defect

/-- **Flags for lines.**  A pattern that can be read under some flags can be read under all flags
that are alike. -/
theorem exists_read_of_alike {f g : Flags} (flags : f.Alike g) {s : String} {n : Node}
    (h : read f s = .ok n) : ∃ n', read g s = .ok n' := by
  have hrun : ∀ (x : Reading Node) (c : Cursor), x.run' c = (x c >>= fun p => Pure.pure p.1) :=
    fun _ _ => rfl
  rw [read, hrun] at h
  rw [read, hrun]
  rcases agrees_wholePattern flags ⟨s.toList, [], s.toList, 0, [], [], none, []⟩ with
    ⟨e, he, _⟩ | ⟨_, n', d, _, hd, _⟩
  · rw [he] at h
    cases h
  · exact ⟨n', by rw [hd]; rfl⟩

end ConfigAudit.Pattern
