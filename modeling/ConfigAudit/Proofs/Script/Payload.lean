/-
# Devices that scripts can be run on

A script is shown a device as a document, with the groups of the device in order and its
configuration data as it was loaded.  Not every device has such a document that can be written
down: its groups may have no common order, and its data may hold days, bytes or other values that
there is no form for.  Whatever its interpreter would answer, a script rule reports nothing but
errors for such a device.

* `Json.Representable` : the values that have a written form;
* `Device.Portable` : the devices whose documents can be written down;
* `ReportsDelivered` : a script rule reports every verdict that its interpreter delivers;
* `portable_iff` : this is so on portable devices only.
-/
import ConfigAudit.Policy.File
import ConfigAudit.Proofs.Script.Verdict
import ConfigAudit.Proofs.Value.Sorted

namespace ConfigAudit

/-! ## Values -/

namespace Json

/-- The keys that have a written form. -/
inductive IsKey : Value → Prop where
  /-- Nothing. -/
  | null : IsKey .null
  /-- A truth value. -/
  | flag (b : Bool) : IsKey (.flag b)
  /-- A short integer. -/
  | int {n : Int} (short : Value.isShort n = true) : IsKey (.int n)
  /-- A floating-point number. -/
  | float (x : Float) : IsKey (.float x)
  /-- A text. -/
  | text (s : String) : IsKey (.text s)
  /-- An outcome. -/
  | outcome (o : Outcome) : IsKey (.outcome o)

/-- The values that have a written form. -/
inductive Representable : Value → Prop where
  /-- What can be a key can be a value. -/
  | key {v : Value} (key : IsKey v) : Representable v
  /-- A list of such values. -/
  | list {xs : List Value} (members : ∀ x ∈ xs, Representable x) : Representable (.list xs)
  /-- Two such values together. -/
  | pair {a b : Value} (first : Representable a) (second : Representable b) :
      Representable (.pair a b)
  /-- A table of such values under keys. -/
  | table {es : List (Value × Value)} (keys : ∀ e ∈ es, IsKey e.1)
      (values : ∀ e ∈ es, Representable e.2) : Representable (.table es)

/-- Short integers can be written. -/
theorem exists_writeInteger_iff {n : Int} :
    (∃ w, writeInteger n = .ok w) ↔ Value.isShort n = true := by
  unfold writeInteger
  split
  · rename_i hshort
    exact iff_of_true ⟨_, rfl⟩ hshort
  · rename_i hlong
    exact iff_of_false nofun hlong

/-- Keys are what can be written as keys. -/
theorem exists_writeKey_iff {v : Value} : (∃ w, writeKey v = .ok w) ↔ IsKey v := by
  cases v with
  | null => exact iff_of_true ⟨_, rfl⟩ .null
  | flag b => exact iff_of_true ⟨_, rfl⟩ (.flag b)
  | float x => exact iff_of_true ⟨_, rfl⟩ (.float x)
  | text s => exact iff_of_true ⟨_, rfl⟩ (.text s)
  | outcome o => exact iff_of_true ⟨_, rfl⟩ (.outcome o)
  | int n =>
      constructor
      · rintro ⟨w, hw⟩
        rw [writeKey] at hw
        cases hn : writeInteger n with
        | ok s => exact .int (exists_writeInteger_iff.1 ⟨s, hn⟩)
        | error f =>
            rw [hn] at hw
            cases hw
      · rintro ⟨⟩
        rename_i hshort
        obtain ⟨s, hs⟩ := exists_writeInteger_iff.2 hshort
        exact ⟨writeText s, by rw [writeKey, hs]; rfl⟩
  | bytes | date | moment | list | pair | set | table =>
      refine iff_of_false ?_ fun h => by cases h
      rintro ⟨w, hw⟩
      cases hw

/-- Keys can be written as values. -/
theorem writable_of_isKey {v : Value} (h : IsKey v) : Writable v := by
  cases h with
  | int short => exact exists_writeInteger_iff.2 short
  | _ => exact ⟨_, rfl⟩

/-- The values of a table are smaller than the table. -/
theorem sizeOf_value_lt {e : Value × Value} {es : List (Value × Value)} (he : e ∈ es) :
    sizeOf e.2 < 1 + sizeOf es := by
  have hmem := List.sizeOf_lt_of_mem he
  have hpart : sizeOf e = 1 + sizeOf e.1 + sizeOf e.2 := rfl
  omega

/-- What can be written is representable. -/
theorem representable_of_writable : ∀ {v : Value}, Writable v → Representable v
  | .null, _ => .key .null
  | .flag b, _ => .key (.flag b)
  | .int _, h => .key (.int (exists_writeInteger_iff.1 h))
  | .float x, _ => .key (.float x)
  | .text s, _ => .key (.text s)
  | .outcome o, _ => .key (.outcome o)
  | .list _, h => .list fun x hx => representable_of_writable (writable_list_iff.1 h x hx)
  | .pair _ _, h => .pair (representable_of_writable (writable_pair_iff.1 h).1)
      (representable_of_writable (writable_pair_iff.1 h).2)
  | .table es, h => .table (fun e he => exists_writeKey_iff.1 (writable_table_iff.1 h e he).1)
      fun e he =>
        have : sizeOf e.2 < 1 + sizeOf es := sizeOf_value_lt he
        representable_of_writable (writable_table_iff.1 h e he).2
  | .bytes _, h | .date _, h | .moment _, h | .set _, h => by
      obtain ⟨w, hw⟩ := h
      cases hw

/-- Keys can be shown in messages. -/
theorem isSpellable_of_isKey {v : Value} (h : IsKey v) : v.isSpellable = true := by
  cases h with
  | int short => exact short
  | _ => rfl

/-- So can everything that has a written form. -/
theorem isSpellable_of_representable {v : Value} (h : Representable v) :
    v.isSpellable = true := by
  induction h with
  | key key => exact isSpellable_of_isKey key
  | list _ ih => exact Value.allSpellable_iff.2 ih
  | pair _ _ iha ihb => exact Bool.and_eq_true_iff.2 ⟨iha, ihb⟩
  | table keys _ ih =>
      exact Value.entriesSpellable_iff.2 fun e he => ⟨isSpellable_of_isKey (keys e he), ih e he⟩

/-- **What has a written form.** -/
theorem writable_iff_representable {v : Value} : Writable v ↔ Representable v := by
  refine ⟨representable_of_writable, fun h => ?_⟩
  induction h with
  | key key => exact writable_of_isKey key
  | list _ ih => exact writable_list_iff.2 ih
  | pair _ _ iha ihb => exact writable_pair_iff.2 ⟨iha, ihb⟩
  | table keys _ ih =>
      exact writable_table_iff.2 fun e he => ⟨exists_writeKey_iff.2 (keys e he), ih e he⟩

end Json

/-! ## Devices -/

/-- A device whose document can be written down. -/
structure Device.Portable (d : Device) : Prop where
  /-- Its id is short. -/
  id : Value.isShort d.id = true
  /-- Its name has a written form. -/
  name : Json.Representable d.name
  /-- So has what drives it. -/
  driver : Json.Representable d.driver
  /-- So has its family. -/
  family : Json.Representable d.family
  /-- Its groups can be sorted. -/
  order : Value.Orderable d.groups
  /-- They have written forms. -/
  groups : ∀ v ∈ d.groups, Json.Representable v
  /-- The names of its configuration data can be written as keys. -/
  names : ∀ e ∈ d.attributes, Json.IsKey e.1
  /-- The data have written forms. -/
  data : ∀ e ∈ d.attributes, Json.Representable e.2

namespace Device

variable {d : Device}

/-- The document of a device can be written if its parts can. -/
theorem writable_payload_iff {sorted : List Value} (h : Value.sorted d.groups = .ok sorted) :
    (∃ p, d.payload = .ok p ∧ Json.Writable p) ↔
      Json.Writable (.int d.id) ∧ Json.Writable d.name ∧ Json.Writable d.driver ∧
        Json.Writable d.family ∧ Json.Writable (.list d.groups) ∧
        Json.Writable (.table d.attributes) := by
  have hpayload : d.payload = .ok (.record [("id", .int d.id), ("name", d.name),
      ("driver", d.driver), ("family", d.family), ("groups", .list sorted),
      ("config", .table d.attributes)]) := by
    rw [payload, h]
    rfl
  have hgroups : Json.Writable (.list sorted) ↔ Json.Writable (.list d.groups) := by
    simp only [Json.writable_list_iff, (Value.sorted_perm h).mem_iff]
  simp only [hpayload, Except.ok.injEq, exists_eq_left', Json.writable_record_iff,
    List.forall_mem_cons, hgroups, List.not_mem_nil, false_implies, implies_true, and_true]

/-- The document of a device can be written exactly if the device is portable. -/
theorem exists_writable_payload_iff :
    (∃ p, d.payload = .ok p ∧ Json.Writable p) ↔ d.Portable := by
  constructor
  · intro h
    obtain ⟨sorted, hsorted⟩ : ∃ sorted, Value.sorted d.groups = .ok sorted := by
      obtain ⟨p, hp, _⟩ := h
      obtain ⟨sorted, hsorted, _⟩ := bind_eq_ok_iff.1 hp
      exact ⟨sorted, hsorted⟩
    obtain ⟨hid, hname, hdriver, hfamily, hgroups, hdata⟩ := (writable_payload_iff hsorted).1 h
    exact {
      id := Json.exists_writeInteger_iff.1 hid
      name := Json.writable_iff_representable.1 hname
      driver := Json.writable_iff_representable.1 hdriver
      family := Json.writable_iff_representable.1 hfamily
      order := Value.exists_sorted_iff.1 ⟨sorted, hsorted⟩
      groups := fun v hv =>
        Json.writable_iff_representable.1 (Json.writable_list_iff.1 hgroups v hv)
      names := fun e he => Json.exists_writeKey_iff.1 (Json.writable_table_iff.1 hdata e he).1
      data := fun e he =>
        Json.writable_iff_representable.1 (Json.writable_table_iff.1 hdata e he).2 }
  · intro h
    obtain ⟨sorted, hsorted⟩ := Value.exists_sorted_iff.2 h.order
    exact (writable_payload_iff hsorted).2 ⟨Json.exists_writeInteger_iff.2 h.id,
      Json.writable_iff_representable.2 h.name, Json.writable_iff_representable.2 h.driver,
      Json.writable_iff_representable.2 h.family,
      Json.writable_iff_representable.2 (.list h.groups),
      Json.writable_iff_representable.2 (.table h.names h.data)⟩

end Device

/-! ## Rules -/

open Sandbox

section Rules

variable {g : Setting} {l : Language} {script : Value} {r : Rule} {s : Subject}

/-- A script rule is due on a device. -/
structure ScriptDue (g : Setting) (r : Rule) (s : Subject) (l : Language) (script : Value) :
    Prop where
  /-- The rule is a script rule. -/
  body : r.body = .script l script
  /-- It is switched on. -/
  on : r.enabled.truthy = true
  /-- The device is not exempted. -/
  due : s.isExempted r.id g.now = .ok false
  /-- The name of the rule can be shown. -/
  named : r.name.isSpellable = true

/-- A script can be run in a sandbox: it can be written down, and the limit is a finite number of
milliseconds. -/
def Runnable (sandbox : Sandbox) (script : Value) : Prop :=
  Json.Writable script ∧ Value.IsFinite (sandbox.timeout * 1000)

/-- A verdict that the interpreter delivers, however it is called, is reported. -/
def ReportsDelivered (g : Setting) (r : Rule) (s : Subject) : Prop :=
  ∀ o ∈ verdicts, ∀ comment, (∀ i, Delivers (g.interpreter i) o comment) →
    ∃ notes result, r.check g s = (notes, .ok result) ∧
      result.outcome = o ∧ result.comment = comment

namespace ScriptDue

/-- The interpreter is called exactly if the device is portable and the script can be run. -/
theorem exists_call_iff (h : ScriptDue g r s l script) :
    (∃ i, r.calls g s = [i]) ↔ s.device.Portable ∧ Runnable (g.sandbox l) script := by
  rw [← Device.exists_writable_payload_iff]
  simp only [calls_eq_singleton_iff h.body h.on h.due]
  constructor
  · rintro ⟨i, p, hp, hcall⟩
    obtain ⟨hfinite, hscript, hdevice⟩ := (exists_checkCall_iff _ _ _).1 ⟨i, hcall⟩
    exact ⟨⟨p, hp, hdevice⟩, hscript, hfinite⟩
  · rintro ⟨⟨p, hp, hdevice⟩, hscript, hfinite⟩
    obtain ⟨i, hcall⟩ := (exists_checkCall_iff _ _ _).2 ⟨hfinite, hscript, hdevice⟩
    exact ⟨i, p, hp, hcall⟩

/-- The names that a failure is noted under can be shown if that of the device can. -/
theorem areNamed (h : ScriptDue g r s l script) (device : s.device.name.isSpellable = true) :
    areNamed r.name s.device = true := Bool.and_eq_true_iff.2 ⟨h.named, device⟩

/-- If it is called, what it delivers is reported. -/
theorem reportsDelivered (h : ScriptDue g r s l script) (called : ∃ i, r.calls g s = [i]) :
    ReportsDelivered g r s := by
  have hdevice := Json.isSpellable_of_representable (h.exists_call_iff.1 called).1.name
  obtain ⟨i, hcalls⟩ := called
  obtain ⟨notes, result, hcheck, hdelivers, _⟩ :=
    check_of_script g s h.body h.on h.due (h.areNamed hdevice)
  intro o ho comment hall
  exact ⟨notes, result, hcheck, (hdelivers o ho comment).2 ⟨i, hcalls, hall i⟩⟩

/-- If it is not, the logic of the rule fails. -/
theorem judge_of_no_call (h : ScriptDue g r s l script) (uncalled : ¬ ∃ i, r.calls g s = [i]) :
    ∃ f, ((r.logic g).judge s.device).2 = .error f := by
  cases hjudge : ((r.logic g).judge s.device).2 with
  | error f => exact ⟨f, rfl⟩
  | ok verdict =>
      -- a judgement is evaluated, and the interpreter has to be called for that
      obtain ⟨answered, hanswered⟩ :=
        Logic.exists_evaluate_of_judge (Rule.concerns_of_script h.body) rfl hjudge
      rw [Rule.evaluate_of_script h.body] at hanswered
      obtain ⟨p, i, hp, hcall⟩ := exists_checkCall_of_evaluateScript hanswered
      exact absurd ⟨i, (calls_eq_singleton_iff h.body h.on h.due).2 ⟨p, hp, hcall⟩⟩ uncalled

/-- Then nothing but an error is reported. -/
theorem error_of_no_call (h : ScriptDue g r s l script) (uncalled : ¬ ∃ i, r.calls g s = [i]) :
    (∀ notes result, r.check g s = (notes, .ok result) → result.outcome = .error) ∧
      (s.device.name.isSpellable = true →
        ∃ notes result, r.check g s = (notes, .ok result)) := by
  obtain ⟨f, hjudge⟩ := h.judge_of_no_call uncalled
  have hsane := Rule.sane_of_script h.body
  refine ⟨fun notes result hcheck => ?_, fun hdevice => ?_⟩
  · exact Rule.outcome_of_error hsane h.on h.due hjudge hcheck
  · obtain ⟨notes, hcheck⟩ := Rule.check_of_error hsane h.on h.due (h.areNamed hdevice) hjudge
    exact ⟨notes, _, hcheck⟩

end ScriptDue

end Rules

/-- **Portable devices.**  The document of a device can be written down exactly if its groups have a
common order and all of its parts have written forms.  If the device is such, a script rule that is
due on it, and whose script can be run, reports every verdict that its interpreter delivers.  If
not, the rule reports nothing but an error whatever would be delivered, and it does report one if
the name of the device can be shown. -/
theorem portable_iff (g : Setting) (r : Rule) (s : Subject) (l : Language) (script : Value)
    (h : ScriptDue g r s l script) :
    ((∃ p, s.device.payload = .ok p ∧ Json.Writable p) ↔ s.device.Portable) ∧
    ((∃ i, r.calls g s = [i]) ↔ s.device.Portable ∧ Runnable (g.sandbox l) script) ∧
    ((∀ run, ReportsDelivered { g with interpreter := run } r s) ↔
      s.device.Portable ∧ Runnable (g.sandbox l) script) ∧
    (¬ s.device.Portable →
      (∀ notes result, r.check g s = (notes, .ok result) → result.outcome = .error) ∧
      (s.device.name.isSpellable = true →
        ∃ notes result, r.check g s = (notes, .ok result))) := by
  have hdue : ∀ run, ScriptDue { g with interpreter := run } r s l script := fun run =>
    ⟨h.body, h.on, h.due, h.named⟩
  refine ⟨Device.exists_writable_payload_iff, h.exists_call_iff,
    ⟨fun reports => ?_, fun callable run => ?_⟩, fun unportable => ?_⟩
  · by_contra uncallable
    -- a verdict that would be delivered for every device
    obtain ⟨output, _, hdelivered⟩ := delivers_plainAnswer
    have hmem : Outcome.conforming ∈ verdicts := by decide
    obtain ⟨notes, result, hcheck, houtcome, _⟩ :=
      reports (fun _ => .exited 0 output "") _ hmem .null fun _ => hdelivered
    have herror := ((hdue fun _ => .exited 0 output "").error_of_no_call fun called =>
      uncallable ((hdue _).exists_call_iff.1 called)).1 _ _ hcheck
    cases houtcome.symm.trans herror
  · exact (hdue run).reportsDelivered ((hdue run).exists_call_iff.2 callable)
  · exact h.error_of_no_call fun called => unportable (h.exists_call_iff.1 called).1

/-- A device with two groups and with nested configuration data. -/
def stockedDevice : Subject where
  device := {
    id := 7
    name := .text "edge"
    driver := .text "CiscoIOS12"
    family := .null
    groups := [.text "edge", .text "branch"]
    attributes := [(.text "ports", .table [(.int 1, .list [.flag true, .null])])] }
  register := none

/-- The device is portable. -/
theorem portable_stockedDevice : stockedDevice.device.Portable where
  id := by decide
  name := .key (.text _)
  driver := .key (.text _)
  family := .key .null
  order := by
    refine .alike (k := .text) ?_
    simp only [Value.Alike, stockedDevice, List.forall_mem_cons]
    exact ⟨rfl, rfl, List.forall_mem_nil _⟩
  groups := by
    simp only [stockedDevice, List.forall_mem_cons]
    exact ⟨.key (.text _), .key (.text _), List.forall_mem_nil _⟩
  names := by
    simp only [stockedDevice, List.forall_mem_cons]
    exact ⟨.text _, List.forall_mem_nil _⟩
  data := by
    simp only [stockedDevice, List.forall_mem_cons]
    refine ⟨.table ?_ ?_, List.forall_mem_nil _⟩
    · simp only [List.forall_mem_cons]
      exact ⟨.int (by decide), List.forall_mem_nil _⟩
    · simp only [List.forall_mem_cons]
      refine ⟨.list ?_, List.forall_mem_nil _⟩
      simp only [List.forall_mem_cons]
      exact ⟨.key (.flag true), .key .null, List.forall_mem_nil _⟩

/-- Whatever a script says of the device is reported. -/
theorem reportsDelivered_of_stockedDevice :
    ScriptDue (answering 30 "") scriptedCheck stockedDevice .python
      (.text "def check(device): return CONFORMING") ∧
    ∀ run, ReportsDelivered { answering 30 "" with interpreter := run } scriptedCheck
      stockedDevice := by
  have hdue : ScriptDue (answering 30 "") scriptedCheck stockedDevice .python
      (.text "def check(device): return CONFORMING") := ⟨rfl, rfl, rfl, rfl⟩
  have hfinite : Value.IsFinite (30 * 1000) := ⟨_, _, _, rfl⟩
  obtain ⟨_, _, hreports, _⟩ := portable_iff _ _ _ _ _ hdue
  exact ⟨hdue, hreports.2 ⟨portable_stockedDevice, Json.writable_text _, hfinite⟩⟩

/-- A day has no written form. -/
theorem Json.not_representable_date (d : Date) : ¬ Json.Representable (.date d) := by
  intro h
  cases h with
  | key key => cases key

/-- Files of which each describes a device that was set up on some day. -/
def datedFiles : Files := fun _ =>
  let text := "devices:\n- id: 7\n  name: edge\n  attributes:\n    installed: 2026-03-01\n"
  some (.file (text.toList.map fun c => UInt8.ofNat c.toNat))

/-- A device that is loaded from a file need not be portable: its data may hold a day. -/
theorem not_every_device_portable :
    ¬ ∀ (files : Files) (path : String) (ds : List Device), loadDevices files path = .ok ds →
      ∀ d ∈ ds, ∃ p, d.payload = .ok p ∧ Json.Writable p := by
  intro claim
  have hread : (loadDevices datedFiles "devices.yaml").toOption.map (fun ds =>
      ds.any fun d => d.attributes.any fun e => e.2.order? == some .date) = some true := by
    decide +kernel
  cases hds : loadDevices datedFiles "devices.yaml" with
  | error f =>
      rw [hds] at hread
      cases hread
  | ok ds =>
      rw [hds] at hread
      obtain ⟨d, hd, hdated⟩ := List.any_eq_true.1 (Option.some.inj hread)
      obtain ⟨e, he, hdate⟩ := List.any_eq_true.1 hdated
      have hportable := Device.exists_writable_payload_iff.1 (claim _ _ ds hds d hd)
      have hvalue := hportable.data e he
      obtain ⟨day, hday⟩ := Value.shape_of_order? (beq_iff_eq.1 hdate)
      rw [hday] at hvalue
      exact Json.not_representable_date day hvalue

end ConfigAudit
