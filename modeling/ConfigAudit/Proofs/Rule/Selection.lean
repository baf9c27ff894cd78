/-
# The kind that a tag selects

A table of kinds is open at first.  Kinds are registered in it, and the latest one of a tag takes
the place of those before it.  The table is closed when it is frozen, or when the kinds of every
audit are added, which takes nobody's place.  Which kind a tag selects can be told from the calls up
to then; what comes later makes no difference.

* `Call`, `KindTable.perform` : what can be done with a table, and what is answered;
* `lastRegistered`, `selected` : the kind that a tag selects, told from the calls alone;
* `lookup?_after` : the table finds this kind;
* `after_of_frozen` : a frozen table stays as it is;
* `tags_select` : how tables answer, whatever has been done with them.
-/
import Mathlib.Data.List.TakeWhile
import ConfigAudit.Proofs.Rule.Built
import ConfigAudit.Proofs.Value.Texts

namespace ConfigAudit

namespace KindTable

variable {κ : Type}

/-! ## Looking up tags -/

/-- The kind under a tag is the first that is listed under it. -/
theorem lookup?_text (t : KindTable κ) (tag : String) :
    t.lookup? (.text tag) = (t.kinds.find? (·.1 == tag)).map Prod.snd := by
  simp only [lookup?, Value.equal_text]

/-- A tag without a kind is not among the tags. -/
theorem lookup?_eq_none_iff (t : KindTable κ) (tag : String) :
    t.lookup? (.text tag) = none ↔ tag ∉ t.tags := by
  rw [lookup?_text, Option.map_eq_none_iff, List.find?_eq_none, tags, List.mem_mergeSort,
    List.mem_map]
  constructor
  · rintro h ⟨e, he, rfl⟩
    exact h e he (beq_self_eq_true _)
  · intro h e he htag
    exact h ⟨e, he, eq_of_beq htag⟩

/-- A text can be looked for. -/
theorem find?_text (t : KindTable κ) (tag : String) :
    t.find? (.text tag) = .ok (t.lookup? (.text tag)) := rfl

/-- The kind under a tag is answered if there is one. -/
theorem get_eq_ok_iff (t : KindTable κ) (tag : String) (k : κ) :
    t.get (.text tag) = .ok k ↔ t.lookup? (.text tag) = some k := by
  rw [get_text]
  cases t.lookup? (.text tag) with
  | none => simp only [reduceCtorEq]
  | some k' => simp only [Except.ok.injEq, Option.some.injEq]

/-- The kind under a tag is refused if there is none. -/
theorem exists_get_eq_error_iff (t : KindTable κ) (tag : String) :
    (∃ f, t.get (.text tag) = .error f) ↔ t.lookup? (.text tag) = none := by
  rw [get_text]
  cases t.lookup? (.text tag) with
  | none => exact iff_of_true ⟨_, rfl⟩ rfl
  | some k => simp only [reduceCtorEq, exists_false]

/-! ## Calls -/

/-- What can be done with a table. -/
inductive Call (κ : Type) where
  /-- A kind is registered. -/
  | register (k : κ)
  /-- The kinds that every audit knows are added. -/
  | addBuiltins
  /-- The table is frozen. -/
  | freeze
  /-- The kind under a tag is asked for. -/
  | get (tag : String)
  /-- The kind under a tag is looked for. -/
  | find (tag : String)
  /-- It is asked whether there is a kind under a tag. -/
  | contains (tag : String)
  /-- The tags are asked for. -/
  | list
  /-- A rule is built from a document. -/
  | build (data : Value)

/-- What is answered. -/
inductive Reply (κ : Type) where
  /-- Nothing. -/
  | done
  /-- A kind, if there is one. -/
  | kind (k : Option κ)
  /-- Whether there is one. -/
  | flag (b : Bool)
  /-- The tags. -/
  | tags (ts : List String)
  /-- The rule that was built. -/
  | rule (r : Rule)
  /-- The call is refused. -/
  | refused (f : Fault)

/-- Answers a question, or tells why there is no answer. -/
def Reply.ofResult {α : Type} (answer : α → Reply κ) : Except Fault α → Reply κ
  | .ok a => answer a
  | .error f => .refused f

/-- Whether a call closes an open table. -/
def Call.closes : Call κ → Bool
  | addBuiltins | freeze => true
  | _ => false

variable [RuleKind κ]

/-- Carries out a call. -/
def perform (t : KindTable κ) : Call κ → KindTable κ × Reply κ
  | .register k => match t.register k with
    | .ok t' => (t', .done)
    | .error f => (t, .refused f)
  | .addBuiltins => (t.withBuiltins, .done)
  | .freeze => (t.freeze, .done)
  | .get tag => (t, .ofResult (.kind ∘ some) (t.get (.text tag)))
  | .find tag => (t, .ofResult .kind (orValueFault (t.find? (.text tag))))
  | .contains tag => (t, .flag (t.contains (.text tag)))
  | .list => (t, .tags t.tags)
  | .build data => (t, .ofResult .rule (t.ruleOf data))

/-- The table after some calls. -/
def after (t : KindTable κ) (calls : List (Call κ)) : KindTable κ :=
  calls.foldl (fun t call => (t.perform call).1) t

/-! ## What the calls say -/

/-- The kind of a tag that a call registers. -/
def Call.registers? (tag : String) : Call κ → Option κ
  | register k => if RuleKind.tag k = tag then some k else none
  | _ => none

/-- The kind that was registered last under a tag. -/
def lastRegistered (tag : String) (calls : List (Call κ)) : Option κ :=
  calls.reverse.findSome? (·.registers? tag)

/-- The kinds that the closing of a table brings along. -/
def broughtAlong (calls : List (Call κ)) : List κ :=
  match calls.find? Call.closes with
  | some .addBuiltins => RuleKind.builtins
  | _ => []

/-- The kind that a tag selects: the one that was registered last before the table was closed, or
else one that the closing brought along. -/
def selected (tag : String) (calls : List (Call κ)) : Option κ :=
  (lastRegistered tag (calls.takeWhile (!·.closes))).or
    ((broughtAlong calls).find? (RuleKind.tag · == tag))

/-- A call counts unless a later one registers a kind of the same tag. -/
theorem lastRegistered_cons (tag : String) (call : Call κ) (calls : List (Call κ)) :
    lastRegistered tag (call :: calls) = (lastRegistered tag calls).or (call.registers? tag) := by
  rw [lastRegistered, List.reverse_cons, List.findSome?_append, List.findSome?_singleton]
  rfl

/-! ## Changes -/

/-- A kind is found under its tag once it was put there, and other tags select what they did. -/
theorem find?_put (k : κ) (es : List (String × κ)) (tag : String) :
    ((put k es).find? (·.1 == tag)).map Prod.snd =
      if RuleKind.tag k = tag then some k else (es.find? (·.1 == tag)).map Prod.snd := by
  induction es with
  | nil => by_cases h : RuleKind.tag k = tag <;> simp [put, h]
  | cons e es ih =>
      obtain ⟨u, x⟩ := e
      rw [put]
      by_cases hu : u = RuleKind.tag k
      · rw [if_pos (beq_iff_eq.2 hu)]
        subst hu
        by_cases h : RuleKind.tag k = tag <;> simp [h]
      · rw [if_neg (mt beq_iff_eq.1 hu), List.find?_cons, List.find?_cons]
        by_cases htag : u = tag
        · -- the entry in front has the tag, so the kind has another one
          have hother : RuleKind.tag k ≠ tag := fun h => hu (htag.trans h.symm)
          simp only [beq_iff_eq.2 htag, if_neg hother]
        · simp only [beq_eq_false_iff_ne.2 htag, ih]

/-- Adding kinds takes nobody's place, also not that of one that was added before. -/
theorem find?_foldl_builtins (ks : List κ) (es : List (String × κ)) (tag : String) :
    ((ks.foldl (fun es k => if es.any (·.1 == RuleKind.tag k) then es else put k es) es).find?
      (·.1 == tag)).map Prod.snd =
      ((es.find? (·.1 == tag)).map Prod.snd).or (ks.find? (RuleKind.tag · == tag)) := by
  induction ks generalizing es with
  | nil => rw [List.foldl_nil, List.find?_nil, Option.or_none]
  | cons k ks ih =>
      rw [List.foldl_cons, ih, List.find?_cons]
      by_cases htag : RuleKind.tag k = tag
      · subst htag
        rw [beq_self_eq_true]
        by_cases htaken : es.any (·.1 == RuleKind.tag k) = true
        · rw [if_pos htaken]
          obtain ⟨e, he⟩ := Option.isSome_iff_exists.1 (List.find?_isSome.2 (List.any_eq_true.1 htaken))
          rw [he, Option.map_some, Option.some_or, Option.some_or]
        · have hfree : es.find? (·.1 == RuleKind.tag k) = none :=
            List.find?_eq_none.2 fun e he h => htaken (List.any_eq_true.2 ⟨e, he, h⟩)
          rw [if_neg htaken, find?_put, if_pos rfl, hfree, Option.map_none, Option.some_or,
            Option.none_or]
      · rw [beq_eq_false_iff_ne.2 htag]
        split
        · rfl
        · rw [find?_put, if_neg htag]

/-- Whether a table is frozen after a call. -/
theorem frozen_perform (t : KindTable κ) (call : Call κ) :
    (t.perform call).1.frozen = (t.frozen || call.closes) := by
  cases hfrozen : t.frozen <;> cases call <;>
    simp [perform, register, withBuiltins, freeze, Call.closes, hfrozen]

/-- No call changes a frozen table. -/
theorem perform_of_frozen {t : KindTable κ} (frozen : t.frozen = true) (call : Call κ) :
    (t.perform call).1 = t := by
  obtain ⟨kinds, b⟩ := t
  cases frozen
  cases call <;> rfl

/-- A kind is registered in an open table. -/
theorem perform_register_of_open {t : KindTable κ} (h : t.frozen = false) (k : κ) :
    (t.perform (.register k)).1 = { t with kinds := put k t.kinds } := by
  rw [perform, register, h]
  rfl

/-- The kinds that every audit knows are added to an open table. -/
theorem lookup?_withBuiltins_of_open {t : KindTable κ} (h : t.frozen = false) (tag : String) :
    t.withBuiltins.lookup? (.text tag) =
      (t.lookup? (.text tag)).or (RuleKind.builtins.find? (RuleKind.tag · == tag)) := by
  rw [withBuiltins, h, if_neg Bool.false_ne_true, lookup?_text, lookup?_text]
  exact find?_foldl_builtins _ _ tag

/-- Adding kinds leaves the tags alone that select a kind already. -/
theorem lookup?_withBuiltins_of_some {t : KindTable κ} {tag : String} {k : κ}
    (h : t.lookup? (.text tag) = some k) : t.withBuiltins.lookup? (.text tag) = some k := by
  cases hfrozen : t.frozen with
  | true => rw [t.withBuiltins_of_frozen hfrozen, h]
  | false => rw [lookup?_withBuiltins_of_open hfrozen, h, Option.some_or]

/-! ## Runs -/

/-- A frozen table stays as it is. -/
theorem after_of_frozen {t : KindTable κ} (frozen : t.frozen = true) (calls : List (Call κ)) :
    t.after calls = t := by
  induction calls with
  | nil => rfl
  | cons call calls ih =>
      rw [after, List.foldl_cons, perform_of_frozen frozen]
      exact ih

/-- Which kind a tag selects after some calls on an open table: the one that was registered last, or
else the one that was there, or else one that the closing brought along. -/
theorem lookup?_after_of_open (t : KindTable κ) (opened : t.frozen = false) (calls : List (Call κ))
    (tag : String) :
    (t.after calls).lookup? (.text tag) =
      ((lastRegistered tag (calls.takeWhile (!·.closes))).or (t.lookup? (.text tag))).or
        ((broughtAlong calls).find? (RuleKind.tag · == tag)) := by
  induction calls generalizing t with
  | nil => simp [after, lastRegistered, broughtAlong]
  | cons call calls ih =>
      have hnext : t.after (call :: calls) = (t.perform call).1.after calls := rfl
      rw [hnext]
      cases hcloses : call.closes with
      | true =>
          -- nothing that comes later counts
          have hfrozen : (t.perform call).1.frozen = true := by
            rw [frozen_perform, hcloses, Bool.or_true]
          have hfirst : (call :: calls).takeWhile (!·.closes) = [] := by
            simp [hcloses]
          have hclosing : (call :: calls).find? Call.closes = some call := by
            rw [List.find?_cons, hcloses]
          rw [after_of_frozen hfrozen, hfirst, broughtAlong, hclosing]
          change _ = (t.lookup? (.text tag)).or _
          cases call with
          | addBuiltins => exact lookup?_withBuiltins_of_open opened tag
          | freeze => exact (Option.or_none).symm
          | _ => cases hcloses
      | false =>
          have hopened : (t.perform call).1.frozen = false := by
            rw [frozen_perform, opened, hcloses, Bool.or_false]
          have hfirst : (call :: calls).takeWhile (!·.closes) =
              call :: calls.takeWhile (!·.closes) := by
            simp [hcloses]
          have hbrought : broughtAlong (call :: calls) = broughtAlong calls := by
            rw [broughtAlong, List.find?_cons, hcloses, broughtAlong]
          have hlookup : (t.perform call).1.lookup? (.text tag) =
              (call.registers? tag).or (t.lookup? (.text tag)) := by
            cases call with
            | register k =>
                rw [perform_register_of_open opened, lookup?_text, find?_put, Call.registers?,
                  lookup?_text]
                split <;> rfl
            | addBuiltins | freeze => cases hcloses
            | _ => rfl
          rw [ih _ hopened, hfirst, hbrought, lastRegistered_cons, hlookup, ← Option.or_assoc]

/-- A tag selects the kind that can be told from the calls. -/
theorem lookup?_after (calls : List (Call κ)) (tag : String) :
    (empty.after calls).lookup? (.text tag) = selected tag calls := by
  have hempty : (empty : KindTable κ).lookup? (.text tag) = none := rfl
  rw [lookup?_after_of_open empty rfl, hempty, Option.or_none, selected]

/-- A table is frozen if one of the calls closed it. -/
theorem frozen_after (t : KindTable κ) (calls : List (Call κ)) :
    (t.after calls).frozen = (t.frozen || calls.any Call.closes) := by
  induction calls generalizing t with
  | nil => rw [List.any_nil, Bool.or_false]; rfl
  | cons call calls ih =>
      rw [List.any_cons, ← Bool.or_assoc, ← frozen_perform]
      exact ih _

/-- While a table is open, a tag selects the kind that was registered last under it. -/
theorem selected_of_open {calls : List (Call κ)} (opened : calls.any Call.closes = false)
    (tag : String) : selected tag calls = lastRegistered tag calls := by
  have hopen : ∀ call ∈ calls, (!call.closes) = true := by
    simpa using opened
  have hbrought : broughtAlong calls = [] := by
    have hnone : calls.find? Call.closes = none :=
      List.find?_eq_none.2 fun call hcall => by simpa using hopen call hcall
    rw [broughtAlong, hnone]
  rw [selected, List.takeWhile_eq_self_iff.2 hopen, hbrought, List.find?_nil, Option.or_none]

/-- **Tags select kinds.**  Whatever has been done with a table that began empty: a tag is refused
exactly if no kind is found under it, which is if it is not contained and is not listed.  The kind
that is found can be told from the calls, and while the table is open it is the one that was
registered last under the tag.  The kinds that every audit knows take nobody's place.  Once the
table is frozen it stays so; every registration is refused without a change; and each tag and each
document selects the same kind for ever. -/
theorem tags_select (calls : List (Call κ)) :
    let t := empty.after calls
    (∀ tag, ((∃ f, t.get (.text tag) = .error f) ↔ t.find? (.text tag) = .ok none) ∧
      (t.find? (.text tag) = .ok none ↔ t.contains (.text tag) = false) ∧
      (t.contains (.text tag) = false ↔ tag ∉ t.tags)) ∧
    (∀ tag, t.find? (.text tag) = .ok (selected tag calls) ∧
      ∀ k, t.get (.text tag) = .ok k ↔ selected tag calls = some k) ∧
    (t.frozen = false → ∀ tag, t.find? (.text tag) = .ok (lastRegistered tag calls)) ∧
    (∀ tag k, t.find? (.text tag) = .ok (some k) →
      t.withBuiltins.find? (.text tag) = .ok (some k)) ∧
    (t.frozen = true → ∀ later, let u := t.after later
      u.frozen = true ∧
      (∀ k, u.perform (.register k) = (u, .refused (.frozenKinds (RuleKind.tag k)))) ∧
      (∀ tag, u.find? tag = t.find? tag ∧ u.get tag = t.get tag ∧
        u.contains tag = t.contains tag) ∧
      u.tags = t.tags ∧
      ∀ data, u.ruleOf data = t.ruleOf data) ∧
    ∀ es tag k, Value.lookup (.text "type") es = some (.text tag) → tag ≠ "" →
      t.find? (.text tag) = .ok (some k) → t.ruleOf (.table es) = RuleKind.build k (.table es) := by
  intro t
  have hselected : ∀ tag, t.lookup? (.text tag) = selected tag calls := lookup?_after calls
  have hcontains : ∀ tag, t.contains (.text tag) = false ↔ t.lookup? (.text tag) = none :=
    fun tag => Option.isSome_eq_false_iff.trans Option.isNone_iff_eq_none
  have hfind : ∀ tag x, t.find? (.text tag) = .ok x ↔ t.lookup? (.text tag) = x := by
    intro tag x
    rw [find?_text, Except.ok.injEq]
  refine ⟨fun tag => ⟨?_, ?_, ?_⟩, fun tag => ⟨?_, fun k => ?_⟩, ?_, ?_, ?_, ?_⟩
  · rw [exists_get_eq_error_iff, hfind]
  · rw [hfind, hcontains]
  · rw [hcontains, lookup?_eq_none_iff]
  · rw [hfind, hselected]
  · rw [get_eq_ok_iff, hselected]
  · intro opened tag
    have hopen : calls.any Call.closes = false := by
      rw [← opened, frozen_after]
      rfl
    rw [hfind, hselected, selected_of_open hopen]
  · intro tag k hk
    rw [hfind] at hk
    rw [find?_text, lookup?_withBuiltins_of_some hk]
  · intro frozen later u
    -- the table is the same one
    have hsame : u = t := after_of_frozen frozen later
    rw [hsame]
    refine ⟨frozen, fun k => ?_, fun tag => ⟨rfl, rfl, rfl⟩, rfl, fun data => rfl⟩
    rw [perform, register, if_pos frozen]
  · intro es tag k htype tagged hk
    rw [hfind] at hk
    rw [ruleOf_of_type t htype tagged, hk]

/-! ## Kinds of one tag -/

/-- A kind in one of several editions, which have its tag. -/
structure Edition where
  /-- The kind. -/
  kind : Kind
  /-- The number of the edition. -/
  number : Nat
  deriving DecidableEq

instance : RuleKind Edition := ⟨fun e => e.kind.tag, fun e => e.kind.build, builtins.map (⟨·, 0⟩)⟩

/-- Two editions of text rules and one of probes are registered before the table is closed, and one
comes too late. -/
def editions : List (Call Edition) :=
  [.register ⟨.text, 1⟩, .find "text", .register ⟨.fixed, 1⟩, .register ⟨.text, 2⟩, .addBuiltins,
   .register ⟨.text, 3⟩]

/-- The second edition of text rules is selected, before and after the table is closed, and remains
so. -/
theorem tags_select_of_editions :
    (empty.after (editions.take 4)).frozen = false ∧
    (empty.after (editions.take 4)).find? (.text "text") = .ok (some ⟨.text, 2⟩) ∧
    (empty.after editions).frozen = true ∧
    (empty.after editions).find? (.text "text") = .ok (some ⟨.text, 2⟩) ∧
    (empty.after editions).find? (.text "python") = .ok (some ⟨.script .python, 0⟩) ∧
    (∃ f, (empty.after editions).get (.text "perl") = .error f) ∧
    ∀ later, ((empty.after editions).after later).find? (.text "text") = .ok (some ⟨.text, 2⟩) := by
  obtain ⟨_, _, hopen, _⟩ := tags_select (editions.take 4)
  obtain ⟨hasked, hselected, _, _, hfrozen, _⟩ := tags_select editions
  have hopened : (empty.after (editions.take 4)).frozen = false := frozen_after empty _
  have hclosed : (empty.after editions).frozen = true := frozen_after empty _
  have hlast : lastRegistered "text" (editions.take 4) = some ⟨.text, 2⟩ := by decide
  have htext : selected "text" editions = some ⟨.text, 2⟩ := by decide
  have hpython : selected "python" editions = some ⟨.script .python, 0⟩ := by decide
  have hperl : selected "perl" editions = none := by decide
  refine ⟨hopened, ?_, hclosed, ?_, ?_, ?_, ?_⟩
  · rw [hopen hopened, hlast]
  · rw [(hselected "text").1, htext]
  · rw [(hselected "python").1, hpython]
  · rw [(hasked "perl").1, (hselected "perl").1, hperl]
  · intro later
    rw [((hfrozen hclosed later).2.2.1 _).1, (hselected "text").1, htext]

end KindTable

end ConfigAudit
