/-
# What the command audits

The command audits each device of its files against every rule of the policies that the device is
in scope of.  No two rules of a file have the same id, so none of them is taken for another one and
left out.  The summary counts all pairs of a device and a rule, and the status tells whether one of
them is a problem.  There is no answer, however, if something cannot be shown: a name that is an
integer of too many digits, or half a character.

* `PolicySet.distinct_of_accepted`, `PolicySet.regular_of_accepted` : the rules of a document;
* `PolicySet.pairs`, `jobsFor_eq_pairs` : what is audited;
* `Command.run_of_loaded`, `Command.run_eq_ok_iff` : what the command answers to files that can be
  loaded;
* `Command.every_pair_counts` : each pair is audited once, and counts.
-/
import ConfigAudit.Proofs.Command.Refusal
import ConfigAudit.Proofs.Policy.Written
import ConfigAudit.Proofs.Rule.Shown
import ConfigAudit.Proofs.Run.Settled
import ConfigAudit.Proofs.Yaml.LongNumber

namespace ConfigAudit

/-! ## Rules of documents -/

namespace PolicySet

variable {g : PolicyReading} {data : Value} {set : PolicySet}

/-- No two rules of an accepted document count as the same. -/
theorem distinct_of_accepted (h : ofValue g data = .ok set) :
    (set.policies.flatMap Policy.rules).Pairwise fun a b => b.same a = false := by
  obtain ⟨ids, hids, hnodup⟩ := ruleIds_of_accepted h
  have hequal : (ids.map Value.int).Pairwise fun v w => Value.equal w v = false := by
    refine List.pairwise_map.2 (hnodup.imp ?_)
    intro n m hne
    rw [Value.equal_int, beq_eq_false_iff_ne]
    exact Ne.symm hne
  rw [← hids, List.pairwise_map] at hequal
  refine hequal.imp ?_
  intro a b hab
  rw [Rule.same, hab, Bool.and_false]

/-- The rules of an accepted document are regular, if they are of the kinds that every audit
knows. -/
theorem regular_of_accepted (h : ofValue g data = .ok set) (standard : g.kinds = .standard) :
    RegularRules set.policies := by
  obtain ⟨ws, _, hpolicies, _⟩ := ofValue_written h
  intro p hp r hr
  rw [hpolicies] at hp
  obtain ⟨w, _, rfl⟩ := List.mem_map.1 hp
  rw [w.members] at hr
  obtain ⟨w', _, rfl⟩ := List.mem_map.1 hr
  exact KindTable.regular_of_ruleOf (standard ▸ w'.built)

/-! ## Pairs -/

/-- Devices with the exemptions of a document. -/
def subjects (set : PolicySet) (ds : List Device) : List Subject :=
  ds.map fun d => ⟨d, some set.exemptions⟩

/-- The pairs of a device and a rule of a policy that the device is in scope of, device by device,
policy by policy and rule by rule. -/
def pairs (set : PolicySet) (ds : List Device) : List Job :=
  (set.subjects ds).flatMap fun s => (rulesFor set.policies s.device).map fun r => ⟨s, r⟩

/-- The rule of a pair is one of the policies. -/
theorem exists_policy_of_mem_pairs {ds : List Device} {j : Job} (h : j ∈ set.pairs ds) :
    ∃ p ∈ set.policies, j.rule ∈ p.rules := by
  obtain ⟨s, _, hj⟩ := List.mem_flatMap.1 h
  obtain ⟨r, hr, rfl⟩ := List.mem_map.1 hj
  obtain ⟨p, hp, hmem⟩ := List.mem_flatMap.1 hr
  exact ⟨p, (List.mem_filter.1 hp).1, hmem⟩

/-- The device of a pair is one of the devices. -/
theorem device_mem_of_mem_pairs {ds : List Device} {j : Job} (h : j ∈ set.pairs ds) :
    j.subject.device ∈ ds := by
  obtain ⟨s, hs, hj⟩ := List.mem_flatMap.1 h
  obtain ⟨d, hd, rfl⟩ := List.mem_map.1 hs
  obtain ⟨_, _, rfl⟩ := List.mem_map.1 hj
  exact hd

/-- The plan has all pairs. -/
theorem jobsFor_eq_pairs (h : ofValue g data = .ok set) (ds : List Device) :
    jobsFor set.policies (set.subjects ds) = set.pairs ds := by
  refine List.flatMap_congr ?_
  intro s _
  rw [distinctRules_eq_rulesFor (distinct_of_accepted h)]

end PolicySet

/-- A policy file that is loaded has a document that is accepted. -/
theorem accepted_of_loadPolicies {g : PolicyReading} {files : Files} {path : String}
    {set : PolicySet} (h : loadPolicies g files path = .ok set) :
    ∃ data, PolicySet.ofValue g data = .ok set := by
  have hread : (loadDocument files path >>= fun data => PolicySet.ofValue g data) = .ok set := by
    unfold loadPolicies inRuleFile at h
    split at h
    · cases h
    · exact h
  obtain ⟨data, _, hdata⟩ := bind_eq_ok_iff.1 hread
  exact ⟨data, hdata⟩

/-! ## Reports -/

namespace Report

/-- The last line of a report counts the results with each outcome. -/
theorem summaryLine_eq (r : Report) : r.summaryLine = "Summary: " ++
    Text.join ", " (Outcome.all.map fun o => o.name ++ "=" ++ toString (r.count o)) := by
  rw [summaryLine, counts, List.map_map]
  rfl

/-- The counts of all outcomes add up to the number of results. -/
theorem sum_count (r : Report) : (Outcome.all.map r.count).sum = r.results.length := by
  rw [← r.sum_counts, counts, List.map_map]
  rfl

/-- The text of a report: a line for each result and the summary, each with a line feed behind
it. -/
def page (r : Report) : String :=
  String.join ((r.results.map CheckResult.text ++ [r.summaryLine]).map (· ++ "\n"))

/-- A report has a problem if a device does not comply or a rule could not be evaluated. -/
theorem failures_isEmpty_iff (r : Report) : r.failures.isEmpty = false ↔
    ∃ x ∈ r.results, x.outcome = .nonConforming ∨ x.outcome = .error := by
  have hfailure : ∀ o : Outcome, o.isFailure = true ↔ o = .nonConforming ∨ o = .error := by
    intro o
    cases o <;> decide
  rw [List.isEmpty_eq_false_iff, Ne, failures, List.filter_eq_nil_iff]
  simp only [CheckResult.isFailure, hfailure]
  push Not
  rfl

/-- The status of a report is 1 if there is a problem. -/
theorem status_eq_one_iff (r : Report) : (if r.failures.isEmpty then 0 else 1) = 1 ↔
    ∃ x ∈ r.results, x.outcome = .nonConforming ∨ x.outcome = .error := by
  rw [← r.failures_isEmpty_iff]
  cases r.failures.isEmpty <;> decide

/-- The status of a report is 0 if there is none. -/
theorem status_eq_zero_iff (r : Report) : (if r.failures.isEmpty then 0 else 1) = 0 ↔
    ¬ ∃ x ∈ r.results, x.outcome = .nonConforming ∨ x.outcome = .error := by
  rw [← r.failures_isEmpty_iff]
  cases r.failures.isEmpty <;> decide

end Report

namespace Command

/-- What comes of a pair of a device and a rule. -/
def outcomeOf (g : Setting) (j : Job) : CheckResult := (j.rule.checkSafely g j.subject).2

/-- Whether what comes of a pair can be shown: the rule and the device can be named, and no half of
a character is in the way. -/
def isShown (g : Setting) (j : Job) : Bool :=
  areNamed j.rule.name j.subject.device && Text.isWhole (outcomeOf g j).text

/-- A report is printed if each of its results can be shown, and then its text is. -/
theorem ofReport_eq_ok_iff {r : Report} {printed : Printed} : ofReport r = .ok printed ↔
    (∀ x ∈ r.results, x.IsShown) ∧
      printed = ⟨if r.failures.isEmpty then 0 else 1, r.page, ""⟩ := by
  constructor
  · intro h
    obtain ⟨lines, hlines, h⟩ := bind_eq_ok_iff.1 h
    obtain ⟨hshown, rfl⟩ := Report.lines_eq_ok_iff.1 hlines
    exact ⟨hshown, (Except.ok.inj h).symm⟩
  · rintro ⟨hshown, rfl⟩
    exact bind_eq_ok_iff.2 ⟨_, Report.lines_eq_ok_iff.2 ⟨hshown, rfl⟩, rfl⟩

/-- A configuration in force asks for a worker. -/
theorem workers_of_prepared {s : Surroundings} {c : Configuration}
    (prepared : prepare s = .ok c) : 1 ≤ c.runner.workers := by
  obtain ⟨c', configured, h⟩ := bind_eq_ok_iff.1 prepared
  obtain rfl : c' = c := by
    obtain ⟨_, _, h⟩ := bind_eq_ok_iff.1 h
    obtain ⟨_, _, h⟩ := bind_eq_ok_iff.1 h
    obtain ⟨_, _, h⟩ := bind_eq_ok_iff.1 h
    exact Except.ok.inj h
  unfold configuration at configured
  split at configured
  · -- each part is picked out and read, the one on audits first
    obtain ⟨_, _, h⟩ := bind_eq_ok_iff.1 configured
    obtain ⟨runner, hrunner, h⟩ := bind_eq_ok_iff.1 h
    obtain ⟨_, _, h⟩ := bind_eq_ok_iff.1 h
    obtain ⟨_, _, h⟩ := bind_eq_ok_iff.1 h
    obtain ⟨_, _, h⟩ := bind_eq_ok_iff.1 h
    obtain ⟨_, _, h⟩ := bind_eq_ok_iff.1 h
    cases h
    exact (RunnerConfig.accepted_of_ofValue hrunner).1
  · cases configured
    have hfour : (1 : Int) ≤ 4 := by decide
    exact hfour
  · cases configured

/-- Devices of several files are those of the files, in order. -/
theorem devices_eq_flatten {files : Files} {paths : List String} {dss : List (List Device)}
    (h : List.Forall₂ (fun path ds => loadDevices files path = .ok ds) paths dss) :
    devices files paths = .ok dss.flatten := by
  induction h with
  | nil => rfl
  | cons hds _ ih => exact bind_eq_ok_iff.2 ⟨_, hds, bind_eq_ok_iff.2 ⟨_, ih, rfl⟩⟩

section Loaded

variable {s : Surroundings} {c : Configuration} {path p : String} {ps : List String}
  {set : PolicySet} {dss : List (List Device)}

/-- What the command answers to files that can be loaded. -/
theorem run_of_loaded (prepared : prepare s = .ok c)
    (policies : loadPolicies (s.reading c) s.files path = .ok set)
    (devices : List.Forall₂ (fun p ds => loadDevices s.files p = .ok ds) (p :: ps) dss) :
    run s (path :: p :: ps) = ofReport
      ⟨(set.pairs dss.flatten).map (outcomeOf (s.reading c).setting), false, 0⟩ := by
  obtain ⟨data, accepted⟩ := accepted_of_loadPolicies policies
  have hload : load (s.reading c) s.files path (p :: ps) = .ok (set, dss.flatten) :=
    bind_eq_ok_iff.2 ⟨set, policies, bind_eq_ok_iff.2 ⟨_, devices_eq_flatten devices, rfl⟩⟩
  -- the configuration asks for a runner that there can be
  have hworkers := workers_of_prepared prepared
  have hmake : Runner.make c.runner.workers c.runner.timeout Runner.defaultPoll =
      .ok ⟨c.runner.workers.toNat, c.runner.timeout,
        Runner.lesser Runner.defaultPoll c.runner.timeout, false⟩ := if_neg (by omega)
  -- its plan leaves out no pair
  have hrun := Runner.run_regular (g := (s.reading c).setting)
    (PolicySet.regular_of_accepted accepted rfl) (set.subjects dss.flatten)
    (Runner.make_eq_ok hmake).1 (Runner.make_eq_ok hmake).2
  rw [PolicySet.jobsFor_eq_pairs accepted, Runner.sequential_eq] at hrun
  have haudit : audit (s.reading c).setting c.runner set dss.flatten =
      .ok ⟨(set.pairs dss.flatten).map (outcomeOf (s.reading c).setting), false, 0⟩ := by
    refine bind_eq_ok_iff.2 ⟨_, hmake, ?_⟩
    exact congrArg (fun x => x.2.2) hrun
  rw [run_prepared prepared, hload]
  dsimp only
  rw [haudit]
  rfl

/-- It prints the report exactly if what comes of each pair can be shown. -/
theorem run_eq_ok_iff (prepared : prepare s = .ok c)
    (policies : loadPolicies (s.reading c) s.files path = .ok set)
    (devices : List.Forall₂ (fun p ds => loadDevices s.files p = .ok ds) (p :: ps) dss)
    {printed : Printed} : run s (path :: p :: ps) = .ok printed ↔
      (∀ j ∈ set.pairs dss.flatten, isShown (s.reading c).setting j = true) ∧
        let r : Report :=
          ⟨(set.pairs dss.flatten).map (outcomeOf (s.reading c).setting), false, 0⟩
        printed = ⟨if r.failures.isEmpty then 0 else 1, r.page, ""⟩ := by
  obtain ⟨data, accepted⟩ := accepted_of_loadPolicies policies
  have hshown : ∀ j ∈ set.pairs dss.flatten, (outcomeOf (s.reading c).setting j).IsShown ↔
      isShown (s.reading c).setting j = true := by
    intro j hj
    obtain ⟨p, hp, hr⟩ := PolicySet.exists_policy_of_mem_pairs hj
    have hregular := PolicySet.regular_of_accepted accepted rfl p hp j.rule hr
    rw [isShown, Bool.and_eq_true]
    exact CheckResult.isShown_iff_of_isOf (hregular.isOf_checkSafely _ _)
  rw [run_of_loaded prepared policies devices, ofReport_eq_ok_iff, List.forall_mem_map]
  exact and_congr_left fun _ => forall₂_congr hshown

end Loaded

/-- A policy of two rules, of which one has an exemption. -/
def twoRules : String :=
  "policies:\n- name: core\n  rules:\n" ++
    "  - name: ntp\n    type: text\n    text: ntp\n    enabled: true\n" ++
    "  - name: snmp\n    type: text\n    text: snmp\n    enabled: true\n    id: 1\n" ++
    "    exemptions:\n    - device_id: 7\n"

/-- Two devices, of which one has no configuration data. -/
def twoDevices : String :=
  "devices:\n- id: 7\n  name: a\n  attributes:\n    running_config: ntp\n- id: 8\n  name: b\n"

/-- Nothing but a file of policies and a file of devices. -/
def onlyFiles (policies devices : String) : Surroundings :=
  { onlyPolicies policies with
    files := fun path =>
      if path = "p.yaml" then some (.file (plainBytes policies))
      else if path = "d.yaml" then some (.file (plainBytes devices)) else none }

/-- There is no file of the command itself. -/
theorem prepare_onlyFiles (policies devices : String) :
    prepare (onlyFiles policies devices) = .ok (.standard "python3") := by
  refine prepare_of_missing ?_
  have hpath : tidyPath configPath ≠ "p.yaml" ∧ tidyPath configPath ≠ "d.yaml" := by decide +kernel
  exact (if_neg hpath.1).trans (if_neg hpath.2)

/-- A file with these rules and a file with these devices. -/
def twoFiles : Surroundings := onlyFiles twoRules twoDevices

/-- A device whose name is an integer of this many digits in base sixteen, and one more. -/
def longNamed (n : Nat) : Device := ⟨7, .int (16 ^ (n + 1) - 1 : Nat), .text "", .text "", [], []⟩

/-- The name cannot be written if it has too many of them. -/
theorem not_isSpellable_longNamed {n : Nat} (h : Decimal.digitLimit ≤ n) :
    (longNamed n).name.isSpellable = false := by
  have hpow : 10 ^ Decimal.digitLimit < 16 ^ (n + 1) :=
    calc 10 ^ Decimal.digitLimit ≤ 10 ^ n := Nat.pow_le_pow_right (by decide) h
      _ ≤ 16 ^ n := Nat.pow_le_pow_left (by decide) n
      _ < 16 ^ (n + 1) := Nat.pow_lt_pow_right (by decide) (Nat.lt_succ_self n)
  rw [← Bool.not_eq_true]
  intro hspellable
  have hlength : (Nat.toDigits 10 (16 ^ (n + 1) - 1)).length ≤ Decimal.digitLimit :=
    Value.isShort_iff.1 hspellable
  have hless := (Nat.length_toDigits_le_iff (by decide) (by decide)).1 hlength
  exact absurd hpow (Nat.not_lt.2 (Nat.le_of_pred_lt hless))

/-- A file of this device, next to a file of policies. -/
def longNamedFiles (n : Nat) : Surroundings :=
  onlyFiles twoRules (String.ofList (Yaml.namedDocument n))

/-- The device is loaded. -/
theorem loadDevices_longNamed {n : Nat} (short : n + 15 ≤ Utf8.pieceLength) :
    loadDevices (longNamedFiles n).files "d.yaml" = .ok [longNamed n] := by
  have hbasic : ∀ c ∈ Yaml.namedDocument n, c.toNat < 0x80 ∧ c ≠ '\r' := by
    intro c hc
    simpa using Yaml.forall_mem_namedDocument (p := fun c => c.toNat < 0x80 && c != '\r')
      (by decide) c hc
  have htext : readTextFile (plainBytes (String.ofList (Yaml.namedDocument n))) =
      .ok (Yaml.namedDocument n) := by
    rw [plainBytes, String.toList_ofList]
    refine readTextFile_basicBytes hbasic ?_
    rwa [Yaml.length_namedDocument]
  have hpath : tidyPath "d.yaml" = "d.yaml" := by decide +kernel
  have hbytes : (longNamedFiles n).files.bytes? "d.yaml" =
      .ok (some (plainBytes (String.ofList (Yaml.namedDocument n)))) := by
    rw [Files.bytes?, hpath]
    rfl
  have hdocument : loadDocument (longNamedFiles n).files "d.yaml" =
      .ok (.record [("id", .int 7), ("name", .int (16 ^ (n + 1) - 1 : Nat))]) := by
    rw [loadDocument, hbytes]
    refine bind_eq_ok_iff.2 ⟨_, rfl, ?_⟩
    dsimp only
    rw [readFile, htext]
    dsimp only
    rw [Yaml.readDocument_namedDocument]
  exact bind_eq_ok_iff.2 ⟨_, hdocument, rfl⟩

end Command

end ConfigAudit
