/-
# Batches of devices

A batch of devices is audited against stored policies with the exemptions of just these devices.
Each device has the results that it has alone, and that it would have with all exemptions.

* `Store.registerOf` : the exemptions of some devices;
* `isExempted_registerOf` : for these devices they say what all exemptions say;
* `auditDevices_eq`, `MayReport.eq_sequential` : what audits from the store report;
* `sequential_registerOf`, `results_of_singles` : the results of one device, and of several;
* `batch_as_singles` : batches and single devices.
-/
import ConfigAudit.Proofs.Policy.Devices
import ConfigAudit.Proofs.Policy.Excuses
import ConfigAudit.Proofs.Rule.Regular
import ConfigAudit.Proofs.Run.Settled
import ConfigAudit.Proofs.Store.Change
import ConfigAudit.Store.Audit

namespace ConfigAudit

namespace Store

/-! ## Loaded rules -/

/-- A rule that is rebuilt from a row is regular. -/
theorem regular_of_ruleOfRow {row : RuleRow} {r : Rule} (h : ruleOfRow .standard row = .ok r) :
    r.Regular := by
  obtain ⟨data, _, h⟩ := bind_eq_ok_iff.1 h
  split at h
  · rename_i rule hrule
    cases h
    exact KindTable.regular_of_ruleOf hrule
  · split at h
    · cases h
      exact ⟨⟨_, rfl⟩, nofun⟩
    · cases h

/-- Rows add regular rules to a policy. -/
theorem regular_of_addRows {rows : List RuleRow} {p p' : Policy} (hp : ∀ r ∈ p.rules, r.Regular)
    (h : addRows .standard p rows = .ok p') : ∀ r ∈ p'.rules, r.Regular := by
  induction rows generalizing p with
  | nil =>
      cases h
      exact hp
  | cons row rows ih =>
      obtain ⟨rule, hrule, h⟩ := bind_eq_ok_iff.1 h
      obtain ⟨p₁, hadd, h⟩ := bind_eq_ok_iff.1 h
      refine ih ?_ h
      rw [Policy.add_eq_ok hadd]
      intro r hr
      rcases List.mem_append.1 hr with hr | hr
      · exact hp r hr
      · exact List.mem_singleton.1 hr ▸ regular_of_ruleOfRow hrule

/-- The rules of loaded policies are regular. -/
theorem regular_of_loadPolicies {s : Store} {ids : Option (List Value)} {ps : List Policy}
    (h : s.loadPolicies ids = .ok ps) : ∀ p ∈ ps, ∀ r ∈ p.rules, r.Regular := by
  have hrows : ∀ (rows : List PolicyRow) (ps : List Policy),
      policiesOfRows .standard s rows = .ok ps → ∀ p ∈ ps, ∀ r ∈ p.rules, r.Regular := by
    intro rows
    induction rows with
    | nil =>
        intro ps h
        cases h
        exact nofun
    | cons row rows ih =>
        intro ps h
        obtain ⟨p₀, hp₀, h⟩ := bind_eq_ok_iff.1 h
        obtain ⟨p, hp, h⟩ := bind_eq_ok_iff.1 h
        obtain ⟨others, hothers, h⟩ := bind_eq_ok_iff.1 h
        cases h
        have hempty : p₀.rules = [] := by
          obtain ⟨targets, _, h⟩ := bind_eq_ok_iff.1 (lift_eq_ok_iff.1 hp₀)
          cases h
          rfl
        refine List.forall_mem_cons.2 ⟨regular_of_addRows ?_ hp, ih others hothers⟩
        rw [hempty]
        exact nofun
  rw [loadPolicies, Session.outcome_loadPolicies (Session.ready_opened s)] at h
  obtain ⟨ids', _, h⟩ := bind_eq_ok_iff.1 h
  exact hrows _ ps h

/-! ## Exemptions of some devices -/

/-- The exemptions of devices can be loaded, if their ids fit into a column. -/
theorem loadExemptions_eq (s : Store) (devices : Option (List Int))
    (fit : ∀ ids ∈ devices, ∀ d ∈ ids, fitsColumn d = true) :
    s.loadExemptions (devices.map fun ids => ids.map Value.int) = .ok (s.registerOf devices) := by
  have hasked : Store.restriction none (devices.map fun ids => ids.map Value.int) = .ok devices :=
    Value.restriction_of_fits fit (by simp)
  rw [loadExemptions, Session.outcome_loadExemptions (Session.ready_opened s), hasked]
  rfl

/-- No exemption of a store ends between two instants. -/
def Steady (s : Store) (a b : Moment) : Prop :=
  ∀ e ∈ s.exemptions, (exemptionOfRow e).isActive a = (exemptionOfRow e).isActive b

/-- A register of stored exemptions answers with the last row for a pair, if it has been loaded for
the device. -/
theorem find?_registerOf (s : Store) {devices : Option (List Int)} {n d : Int}
    (selected : isSelected devices d = true) :
    (s.registerOf devices).find? (.int n) (.int d) =
      (s.exemptions.reverse.find? (isRowFor n d)).map exemptionOfRow := by
  have hnumbered : ∀ x ∈ (s.exemptions.filter fun e => isSelected devices e.device).map
      exemptionOfRow, x.Numbered := by
    intro x hx
    obtain ⟨e, _, rfl⟩ := List.mem_map.1 hx
    exact ⟨_, _, _, rfl⟩
  -- rows for the pair are not left out
  have hrow : (fun e => decide (isSelected devices e.device = true ∧
      (exemptionOfRow e).isFor (.int n) (.int d) = true)) = isRowFor n d := by
    funext e
    rw [Bool.eq_iff_iff, decide_eq_true_iff, exemptionOfRow, Exemption.isFor_int, isRowFor,
      Bool.and_eq_true, beq_iff_eq, beq_iff_eq, and_iff_right_iff_imp]
    rintro ⟨_, rfl⟩
    exact selected
  have hempty : Register.empty.find? (.int n) (.int d) = none := rfl
  rw [registerOf, Register.ofList, Register.find?_entered hnumbered, hempty, Option.or_none,
    ← List.map_reverse, ← List.filter_reverse, List.find?_map, List.find?_filter]
  exact congrArg (fun p => (s.exemptions.reverse.find? p).map exemptionOfRow) hrow

/-- For a device for which they have been loaded, the exemptions say what all exemptions say, and
no matter when, if none ends in between. -/
theorem isExempted_registerOf {s : Store} {devices : Option (List Int)} {n d : Int} {a b : Moment}
    (selected : isSelected devices d = true) (steady : s.Steady a b) :
    (s.registerOf devices).isExempted (.int n) (.int d) a =
      (s.registerOf none).isExempted (.int n) (.int d) b := by
  have hall : isSelected none d = true := rfl
  rw [Register.isExempted, Register.isExempted, find?_registerOf s selected,
    find?_registerOf s hall, Option.any_map, Option.any_map]
  cases hrow : s.exemptions.reverse.find? (isRowFor n d) with
  | none => rw [Option.any_none, Option.any_none]
  | some e =>
      have he : e ∈ s.exemptions := List.mem_reverse.1 (List.mem_of_find?_eq_some hrow)
      rw [Option.any_some, Option.any_some]
      exact steady e he

end Store

/-! ## Snapshots -/

/-- Snapshots that describe devices have their ids. -/
theorem snapshotIds_eq {vs : List Value} {ds : List Device}
    (accepted : List.Forall₂ (fun v d => Device.ofValue v = .ok d) vs ds) :
    snapshotIds vs = .ok (ds.map Device.id) := by
  induction accepted with
  | nil => rfl
  | cons hd _ ih =>
      obtain ⟨w, hw, hid⟩ := Device.id_of_ofValue hd
      exact bind_eq_ok_iff.2 ⟨w, hw, bind_eq_ok_iff.2 ⟨_, hid, bind_eq_ok_iff.2 ⟨_, ih, rfl⟩⟩⟩

/-- Snapshots that describe devices describe these. -/
theorem devicesOfSnapshots_eq {vs : List Value} {ds : List Device}
    (accepted : List.Forall₂ (fun v d => Device.ofValue v = .ok d) vs ds) :
    devicesOfSnapshots vs = .ok ds := by
  induction accepted with
  | nil => rfl
  | cons hd _ ih => exact bind_eq_ok_iff.2 ⟨_, hd, bind_eq_ok_iff.2 ⟨_, ih, rfl⟩⟩

/-! ## Audits from the store -/

namespace Store

variable {g : Setting} {s : Store} {r : Runner} {ids : Option (List Value)}

/-- Devices with the exemptions that have been loaded for them. -/
def subjects (s : Store) (ds : List Device) : List Subject :=
  ds.map fun d => ⟨d, some (s.registerOf (some (ds.map Device.id)))⟩

/-- Reports that an audit of devices from the store may come to, in whatever order workers and
coordinator take turns, if it is not cancelled and no check takes too long. -/
def MayReport (s : Store) (g : Setting) (r : Runner) (vs : List Value) (ids : Option (List Value))
    (report : Report) : Prop :=
  ∃ policies numbers register ds, s.loadPolicies ids = .ok policies ∧
    snapshotIds vs = .ok numbers ∧ s.loadExemptions (some (numbers.map .int)) = .ok register ∧
    devicesOfSnapshots vs = .ok ds ∧
    r.QuietlyReports g policies (ds.map fun d => ⟨d, some register⟩) report

/-- The exemptions of some devices can be loaded, if their ids fit into a column. -/
theorem loadExemptions_devices (s : Store) {ds : List Device}
    (fit : ∀ d ∈ ds, fitsColumn d.id = true) :
    s.loadExemptions (some ((ds.map Device.id).map Value.int)) =
      .ok (s.registerOf (some (ds.map Device.id))) := by
  refine s.loadExemptions_eq (some (ds.map Device.id)) ?_
  intro numbers hnumbers n hn
  cases hnumbers
  obtain ⟨d, hd, rfl⟩ := List.mem_map.1 hn
  exact fit d hd

section Loaded

variable {policies : List Policy} {vs : List Value} {ds : List Device}

/-- What an audit of devices from the store reports, with its notes. -/
theorem auditDevices_eq (loaded : s.loadPolicies ids = .ok policies)
    (accepted : List.Forall₂ (fun v d => Device.ofValue v = .ok d) vs ds)
    (fit : ∀ d ∈ ds, fitsColumn d.id = true) (hw : 1 ≤ r.workers)
    (going : r.cancelRequested = false) :
    auditDevices g r (.ok s) vs ids =
      .ok ⟨⟨(r.terms g).sequential (jobsFor policies (s.subjects ds)), false, 0⟩,
        (jobsFor policies (s.subjects ds)).flatMap (r.terms g).notes⟩ := by
  -- policies, ids, exemptions and devices are found one after the other
  refine bind_eq_ok_iff.2 ⟨policies, loaded, ?_⟩
  refine bind_eq_ok_iff.2 ⟨ds.map Device.id, lift_eq_ok_iff.2 (snapshotIds_eq accepted), ?_⟩
  refine bind_eq_ok_iff.2 ⟨_, s.loadExemptions_devices fit, ?_⟩
  refine bind_eq_ok_iff.2 ⟨ds, lift_eq_ok_iff.2 (devicesOfSnapshots_eq accepted), ?_⟩
  have hrun := Runner.run_regular (g := g) (regular_of_loadPolicies loaded) (s.subjects ds) hw going
  rw [subjects] at hrun
  rw [hrun]
  rfl

/-- In whatever order workers and coordinator take turns, they report the same. -/
theorem MayReport.eq_sequential {report : Report} (h : s.MayReport g r vs ids report)
    (loaded : s.loadPolicies ids = .ok policies)
    (accepted : List.Forall₂ (fun v d => Device.ofValue v = .ok d) vs ds)
    (fit : ∀ d ∈ ds, fitsColumn d.id = true) (hw : 1 ≤ r.workers) :
    report = ⟨(r.terms g).sequential (jobsFor policies (s.subjects ds)), false, 0⟩ := by
  obtain ⟨policies', numbers, register, ds', hpolicies, hnumbers, hregister, hds, hreports⟩ := h
  cases loaded.symm.trans hpolicies
  cases (snapshotIds_eq accepted).symm.trans hnumbers
  cases (s.loadExemptions_devices fit).symm.trans hregister
  cases (devicesOfSnapshots_eq accepted).symm.trans hds
  exact hreports.eq_sequential (regular_of_loadPolicies loaded) hw

/-- The results of a device do not depend on the devices that exemptions have been loaded for, if
it is one of them, nor on the instant, if no exemption ends in between. -/
theorem sequential_registerOf (loaded : s.loadPolicies ids = .ok policies)
    (r : Runner) {devices : Option (List Int)} {d : Device}
    (selected : isSelected devices d.id = true) {now : Moment} (steady : s.Steady g.now now) :
    (r.terms { g with now := now }).sequential
        (jobsFor policies [⟨d, some (s.registerOf devices)⟩]) =
      (r.terms g).sequential (jobsFor policies [⟨d, some (s.registerOf none)⟩]) := by
  refine (Terms.sequential_congr (regular_of_loadPolicies loaded) r ?_).symm
  intro n
  exact (isExempted_registerOf selected fun e he => (steady e he).symm).symm

/-- The results of several devices are those that each of them has with all exemptions. -/
theorem sequential_subjects (loaded : s.loadPolicies ids = .ok policies)
    (r : Runner) (ds : List Device) {now : Moment} (steady : s.Steady g.now now) :
    (r.terms { g with now := now }).sequential (jobsFor policies (s.subjects ds)) =
      ds.flatMap fun d =>
        (r.terms g).sequential (jobsFor policies [⟨d, some (s.registerOf none)⟩]) := by
  rw [subjects, Terms.sequential_devices]
  refine List.flatMap_congr ?_
  intro d hd
  have hselected : isSelected (some (ds.map Device.id)) d.id = true :=
    List.contains_iff_mem.2 (List.mem_map_of_mem hd)
  exact sequential_registerOf loaded r hselected steady

/-- A single device is audited as a batch of its own. -/
theorem auditDevice_eq {v : Value} {d : Device} (accepted : Device.ofValue v = .ok d) :
    auditDevice g r (.ok s) v ids = auditDevices g r (.ok s) [v] ids := by
  obtain ⟨es, rfl⟩ := Device.table_of_ofValue accepted
  rfl

/-- What the audit of a single device reports. -/
theorem exists_auditDevice (loaded : s.loadPolicies ids = .ok policies) {v : Value}
    {d : Device} (accepted : Device.ofValue v = .ok d) (fit : fitsColumn d.id = true)
    (hw : 1 ≤ r.workers) (going : r.cancelRequested = false) :
    ∃ single, auditDevice g r (.ok s) v ids = .ok single ∧
      single.report = ⟨(r.terms g).sequential (jobsFor policies (s.subjects [d])), false, 0⟩ := by
  have hsnapshot : List.Forall₂ (fun v d => Device.ofValue v = .ok d) [v] [d] := .cons accepted .nil
  have hfit : ∀ d' ∈ [d], fitsColumn d'.id = true := List.forall_mem_singleton.2 fit
  rw [auditDevice_eq accepted, auditDevices_eq loaded hsnapshot hfit hw going]
  exact ⟨_, rfl, rfl⟩

/-- The results of single devices, each audited at an instant of its own, are those that they have
with all exemptions, if no exemption ends in between. -/
theorem results_of_singles (loaded : s.loadPolicies ids = .ok policies)
    (accepted : List.Forall₂ (fun v d => Device.ofValue v = .ok d) vs ds)
    (fit : ∀ d ∈ ds, fitsColumn d.id = true) (hw : 1 ≤ r.workers)
    (going : r.cancelRequested = false) {singles : List AuditReport}
    (h : List.Forall₂ (fun v single => ∃ now, s.Steady g.now now ∧
      auditDevice { g with now := now } r (.ok s) v ids = .ok single) vs singles) :
    singles.flatMap (fun single => single.report.results) =
      ds.flatMap fun d =>
        (r.terms g).sequential (jobsFor policies [⟨d, some (s.registerOf none)⟩]) := by
  induction accepted generalizing singles with
  | nil =>
      cases h
      rfl
  | @cons v d vs ds accepted _ ih =>
      obtain ⟨hfit, hfits⟩ := List.forall_mem_cons.1 fit
      cases h with
      | @cons _ single _ singles hfirst hrest =>
          -- the first device is audited at its own instant, the others at theirs
          obtain ⟨now, steady, hanswer⟩ := hfirst
          obtain ⟨single', hanswer', hreport⟩ :=
            exists_auditDevice (g := { g with now := now }) loaded accepted hfit hw going
          cases hanswer.symm.trans hanswer'
          have hresults := sequential_subjects loaded r [d] steady
          rw [List.flatMap_singleton] at hresults
          rw [List.flatMap_cons, List.flatMap_cons, ih hfits hrest, hreport, hresults]

end Loaded

/-- **Batches are made up of single audits.**  If the policies cannot be loaded, a batch and all
single audits fail in the same way.  Otherwise they all succeed, in whatever order workers and
coordinator take turns.  The batch reports what it would report with all exemptions, and its
results are those of its devices alone, in order, each audited at an instant of its own, if no
exemption ends between this instant and that of the batch. -/
theorem batch_as_singles (g : Setting) (s : Store) (ids : Option (List Value)) {workers : Int}
    {timeout poll : Float} (made : Runner.make workers timeout poll = .ok r) {vs : List Value}
    {ds : List Device} (accepted : List.Forall₂ (fun v d => Device.ofValue v = .ok d) vs ds)
    (fit : ∀ d ∈ ds, fitsColumn d.id = true) :
    (∃ f, s.loadPolicies ids = .error f ∧
      auditDevices g r (.ok s) vs ids = .error f ∧
      ∀ v ∈ vs, ∀ now, auditDevice { g with now := now } r (.ok s) v ids = .error f) ∨
    ∃ policies full batch, s.loadPolicies ids = .ok policies ∧
      s.loadExemptions none = .ok full ∧
      auditDevices g r (.ok s) vs ids = .ok batch ∧
      (∀ report, s.MayReport g r vs ids report → report = batch.report) ∧
      (r.run g policies (ds.map fun d => ⟨d, some full⟩)).2.2 = .ok batch.report ∧
      (∀ v ∈ vs, ∀ now, ∃ single,
        auditDevice { g with now := now } r (.ok s) v ids = .ok single ∧
        ∀ report, s.MayReport { g with now := now } r [v] ids report → report = single.report) ∧
      ∀ singles, List.Forall₂ (fun v single => ∃ now, s.Steady g.now now ∧
          auditDevice { g with now := now } r (.ok s) v ids = .ok single) vs singles →
        batch.report.results = singles.flatMap fun single => single.report.results := by
  obtain ⟨hw, going⟩ := Runner.make_eq_ok made
  -- each snapshot could be audited alone
  have halone : ∀ v ∈ vs, ∃ d, Device.ofValue v = .ok d ∧ fitsColumn d.id = true := by
    intro v hv
    obtain ⟨i, hi, rfl⟩ := List.mem_iff_getElem.1 hv
    have hd : i < ds.length := accepted.length_eq ▸ hi
    exact ⟨ds[i], (List.forall₂_iff_get.1 accepted).2 i hi hd, fit _ (List.getElem_mem hd)⟩
  cases loaded : s.loadPolicies ids with
  | error f =>
      have hbatch : ∀ (g : Setting) (vs : List Value), auditDevices g r (.ok s) vs ids = .error f :=
        fun g vs => bind_eq_error_iff.2 (Or.inl loaded)
      refine Or.inl ⟨f, rfl, hbatch g vs, ?_⟩
      intro v hv now
      obtain ⟨d, hd, _⟩ := halone v hv
      rw [auditDevice_eq hd]
      exact hbatch _ [v]
  | ok policies =>
      -- with all exemptions, the devices have the same results
      have steady : s.Steady g.now g.now := fun _ _ => rfl
      have hall := sequential_subjects loaded r ds steady
      refine Or.inr ⟨policies, s.registerOf none, _, rfl,
        s.loadExemptions_eq none (by simp),
        auditDevices_eq loaded accepted fit hw going, ?_, ?_, ?_, ?_⟩
      · intro report h
        exact h.eq_sequential loaded accepted fit hw
      · rw [Runner.run_regular (regular_of_loadPolicies loaded) _ hw going,
          Terms.sequential_devices, ← hall]
      · intro v hv now
        obtain ⟨d, hd, hfit⟩ := halone v hv
        obtain ⟨single, hanswer, hreport⟩ :=
          exists_auditDevice (g := { g with now := now }) loaded hd hfit hw going
        refine ⟨single, hanswer, ?_⟩
        intro report h
        rw [hreport]
        exact h.eq_sequential loaded (.cons hd .nil) (List.forall_mem_singleton.2 hfit) hw
      · intro singles hsingles
        rw [results_of_singles loaded accepted fit hw going hsingles]
        exact hall

/-- A store with a rule that looks for a text, from which two devices are exempted. -/
def excusingStore : Store :=
  ⟨[⟨1, "baseline", .list []⟩],
    [⟨1, 1, "ntp", "text", true, .record [("text", .text "ntp server")]⟩],
    [⟨1, 7, none⟩, ⟨1, 9, none⟩]⟩

/-- Two devices, of which one is named twice and the other one by the text of its id. -/
def threeSnapshots : List Value :=
  [.record [("id", .int 7), ("name", .text "edge")],
    .record [("id", .text "8"), ("name", .text "core"),
      ("attributes", .record [("running_config", .text "ntp server 10.0.0.1")])],
    .record [("id", .int 7), ("name", .text "edge")]]

/-- The devices of these snapshots. -/
def threeDevices : List Device :=
  [⟨7, .text "edge", .text "", .text "", [], []⟩,
    ⟨8, .text "core", .text "", .text "", [],
      [(.text "running_config", .text "ntp server 10.0.0.1")]⟩,
    ⟨7, .text "edge", .text "", .text "", [], []⟩]

/-- A runner with two workers. -/
def pairOfWorkers : Runner := ⟨2, 30, Runner.lesser Runner.defaultPoll 30, false⟩

/-- The policies of the store. -/
def excusingPolicies : List Policy :=
  [⟨.int 1, .text "baseline", [], [⟨.int 1, .text "ntp", .flag true, .text ⟨.text "running_config",
    .text "ntp server", .flag false, .flag false, .flag false, .null, .flag false, .flag false,
    .null⟩⟩]⟩]

/-- In a batch of these devices the one is exempted each time and the other one complies, as they
do alone. -/
theorem batch_of_threeSnapshots :
    ∃ batch, auditDevices noInterpreters pairOfWorkers (.ok excusingStore) threeSnapshots none =
        .ok batch ∧
      batch.report.results.map CheckResult.outcome = [.exempted, .conforming, .exempted] ∧
      ∀ singles, List.Forall₂ (fun v single => ∃ now,
          excusingStore.Steady noInterpreters.now now ∧ auditDevice { noInterpreters with now := now }
            pairOfWorkers (.ok excusingStore) v none = .ok single) threeSnapshots singles →
        batch.report.results = singles.flatMap fun single => single.report.results := by
  have made : Runner.make 2 30 Runner.defaultPoll = .ok pairOfWorkers := rfl
  have accepted : List.Forall₂ (fun v d => Device.ofValue v = .ok d) threeSnapshots threeDevices :=
    .cons (by cbv) (.cons (by cbv) (.cons (by cbv) .nil))
  have fit : ∀ d ∈ threeDevices, fitsColumn d.id = true := by decide
  have loaded : excusingStore.loadPolicies none = .ok excusingPolicies := by cbv
  have houtcomes : ((pairOfWorkers.terms noInterpreters).sequential (jobsFor excusingPolicies
      (excusingStore.subjects threeDevices))).map CheckResult.outcome =
        [.exempted, .conforming, .exempted] := by
    rw [Runner.sequential_eq, List.map_map]
    decide +kernel
  rcases batch_as_singles noInterpreters excusingStore none made accepted fit with
    hfail | ⟨policies, full, batch, _, _, hbatch, _, _, _, hsingles⟩
  · obtain ⟨f, hf, _⟩ := hfail
    cases loaded.symm.trans hf
  · have hanswer := auditDevices_eq (g := noInterpreters) (r := pairOfWorkers) loaded accepted fit
      (by decide) rfl
    cases hbatch.symm.trans hanswer
    exact ⟨_, hanswer, houtcomes, hsingles⟩

end Store

end ConfigAudit
