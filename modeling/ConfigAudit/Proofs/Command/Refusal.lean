/-
# How the command answers a file of policies

The command reports a fault of the audit in a line and ends with status 2.  Any other fault of the
file of policies goes through it unanswered.  So the command has an answer exactly to the files
whose reading does not stumble.

* `Surroundings.reading` : what the command reads policies with;
* `Command.run_prepared` : what the command does under a configuration;
* `Command.run_of_unloaded` : what the command does when the policies cannot be loaded;
* `Command.policies_answered_iff` : the files that the command has an answer to.
-/
import ConfigAudit.CommandLine
import ConfigAudit.Proofs.Policy.Stumbling
import ConfigAudit.Proofs.Text.Basic

namespace ConfigAudit

/-- What the command reads policies with, under a configuration. -/
def Surroundings.reading (s : Surroundings) (c : Configuration) : PolicyReading :=
  ⟨.standard, true, ⟨s.now, c.sandboxes, s.interpreter⟩⟩

namespace Command

/-- What the command does under a configuration. -/
theorem run_prepared {s : Surroundings} {c : Configuration} (prepared : prepare s = .ok c)
    (path p : String) (ps : List String) :
    run s (path :: p :: ps) =
      match load (s.reading c) s.files path (p :: ps) with
      | .ok (set, ds) =>
          audit (s.reading c).setting c.runner set ds >>= ofReport
      | .error f =>
          if f.stopsAudit then .ok (refuse ("Error: " ++ f.message)) else .error f := by
  rw [run, prepared]
  rfl

/-- The command reports a fault of the audit, and leaves any other one unanswered. -/
theorem run_of_unloaded {s : Surroundings} {c : Configuration} {path : String} {f : Fault}
    (prepared : prepare s = .ok c)
    (unloaded : loadPolicies (s.reading c) s.files path = .error f) (p : String) (ps : List String) :
    run s (path :: p :: ps) =
      if f.stopsAudit then .ok (refuse ("Error: " ++ f.message)) else .error f := by
  have hload : load (s.reading c) s.files path (p :: ps) = .error f := by
    rw [load, unloaded]
    rfl
  rw [run_prepared prepared, hload]

/-- **Files of policies that have an answer.**  The policies of a file are loaded, or refused with
a fault of the audit, exactly if their reading does not stumble; and exactly then the command
answers whatever is wrong with them by a complaint and status 2. -/
theorem policies_answered_iff {s : Surroundings} {c : Configuration} {path : String}
    {bytes : List UInt8} (prepared : prepare s = .ok c)
    (found : s.files (tidyPath path) = some (.file bytes)) :
    (∀ g, ((∃ set, loadPolicies g s.files path = .ok set) ∨
        ∃ f, loadPolicies g s.files path = .error f ∧ f.stopsAudit = true) ↔ ¬ Stumbles g bytes) ∧
      ∀ p ps, (∀ f, loadPolicies (s.reading c) s.files path = .error f →
        run s (path :: p :: ps) = .ok (refuse ("Error: " ++ f.message))) ↔
          ¬ Stumbles (s.reading c) bytes := by
  refine ⟨fun g => loadPolicies_answered_iff found, fun p ps => ?_⟩
  rw [← loadPolicies_answered_iff found]
  constructor
  · intro answered
    cases hload : loadPolicies (s.reading c) s.files path with
    | ok set => exact Or.inl ⟨set, rfl⟩
    | error f =>
        have hrun := answered f hload
        rw [run_of_unloaded prepared hload] at hrun
        cases hstops : f.stopsAudit with
        | true => exact Or.inr ⟨f, rfl, hstops⟩
        | false =>
            rw [hstops] at hrun
            cases hrun
  · rintro (⟨set, hset⟩ | ⟨f, hf, hstops⟩) f' hf'
    · cases hset.symm.trans hf'
    · cases hf.symm.trans hf'
      rw [run_of_unloaded prepared hf, hstops]
      rfl

/-- A file of policies with an exemption that is to end on a day that does not exist. -/
def missingDay : String :=
  "policies:\n- name: core\n  rules:\n  - name: ntp\n    type: text\n    text: ntp\n" ++
    "    exemptions:\n    - device_id: 7\n      expiration_date: 2026-02-30\n"

/-- The bytes of a text of basic characters. -/
def plainBytes (s : String) : List UInt8 := basicBytes s.toList

/-- Nothing but a file of policies. -/
def onlyPolicies (text : String) : Surroundings :=
  ⟨fun path => if path = "p.yaml" then some (.file (plainBytes text)) else none, configPath, [],
    "python3", .ofDate Moment.epoch, noInterpreters.interpreter⟩

/-- The text of the file is read as it stands. -/
theorem text_of_missingDay : readTextFile (plainBytes missingDay) = .ok missingDay.toList :=
  eq_ok_of_toOption (by decide +kernel)

/-- What is wrong with the date for which a document has no value, if there is one. -/
def dateFault? (cs : List Char) : Option MomentFault :=
  match Yaml.readDocument cs with
  | .error (.moment f) => some f
  | _ => none

/-- A document with a wrong date has no value. -/
theorem readDocument_of_dateFault {cs : List Char} {f : MomentFault} (h : dateFault? cs = some f) :
    Yaml.readDocument cs = .error (.moment f) := by
  unfold dateFault? at h
  split at h
  · rename_i f' hf
    rw [hf, Option.some.inj h]
  · cases h

/-- The document in the file has no value. -/
theorem document_of_missingDay : Yaml.readDocument missingDay.toList = .error (.moment .day) :=
  readDocument_of_dateFault (by decide +kernel)

/-- Policies with a wrong date are refused with a fault that is not of the audit itself. -/
theorem loadPolicies_of_date {g : PolicyReading} {files : Files} {path : String}
    {bytes : List UInt8} {cs : List Char} {f : MomentFault}
    (found : files (tidyPath path) = some (.file bytes)) (text : readTextFile bytes = .ok cs)
    (document : Yaml.readDocument cs = .error (.moment f)) :
    loadPolicies g files path = .error (.moment "" f) := by
  rw [loadPolicies, loadDocument_found found, readFile, text]
  dsimp only
  rw [document]
  rfl

/-- Without a file of its own the command has its standard configuration. -/
theorem configuration_of_missing {s : Surroundings} (h : s.files (tidyPath s.configPath) = none) :
    configuration s = .ok (.standard s.python) := by
  have hmissing : loadConfiguration s.files s.environment s.configPath =
      .error (.config (.missingFile s.configPath)) := by
    rw [loadConfiguration, Files.bytes?, h]
    rfl
  rw [configuration, hmissing]

/-- The standard configuration asks for a level that there is. -/
theorem level_standard (python : String) :
    Level.ofValue (Configuration.standard python).logging.level = .ok .info := by
  have hname : Level.ofName? "INFO" = some .info := by decide +kernel
  have hlevel : (Configuration.standard python).logging.level = .text "INFO" := rfl
  have htext : (Value.text "INFO").asText? = some "INFO" := rfl
  rw [hlevel]
  simp only [Level.ofValue, htext, hname]

/-- The standard configuration is put in force. -/
theorem prepare_of_missing {s : Surroundings} (h : s.files (tidyPath s.configPath) = none) :
    prepare s = .ok (.standard s.python) := by
  rw [prepare, configuration_of_missing h]
  dsimp only [bind, Except.bind]
  rw [level_standard]
  rfl

/-- The file of policies is there. -/
theorem found_onlyPolicies (text : String) :
    (onlyPolicies text).files (tidyPath "p.yaml") = some (.file (plainBytes text)) := by
  have hpath : tidyPath "p.yaml" = "p.yaml" := by decide +kernel
  rw [hpath]
  rfl

/-- Nothing but the file of policies is there. -/
theorem prepare_onlyPolicies (text : String) :
    prepare (onlyPolicies text) = .ok (.standard "python3") := by
  refine prepare_of_missing ?_
  have hpath : tidyPath configPath ≠ "p.yaml" := by decide +kernel
  exact if_neg hpath

/-- Reading the policies of the file stumbles over the day, so that neither the audit nor the
command has an answer to it. -/
theorem stumbles_of_missingDay :
    Stumbles plainReading (plainBytes missingDay) ∧
      ¬ ((∃ set, loadPolicies plainReading (onlyPolicies missingDay).files "p.yaml" = .ok set) ∨
        ∃ f, loadPolicies plainReading (onlyPolicies missingDay).files "p.yaml" = .error f ∧
          f.stopsAudit = true) ∧
      ¬ ∀ f, loadPolicies ((onlyPolicies missingDay).reading (.standard "python3"))
          (onlyPolicies missingDay).files "p.yaml" = .error f →
        run (onlyPolicies missingDay) ["p.yaml", "d.yaml"] =
          .ok (refuse ("Error: " ++ f.message)) := by
  have hstumbles : ∀ g, Stumbles g (plainBytes missingDay) := fun g =>
    .date text_of_missingDay document_of_missingDay
  obtain ⟨hload, hcommand⟩ := policies_answered_iff (prepare_onlyPolicies missingDay)
    (found_onlyPolicies missingDay)
  exact ⟨hstumbles _, fun h => (hload plainReading).1 h (hstumbles _),
    fun h => (hcommand "d.yaml" []).1 h (hstumbles _)⟩

/-- Not every file of policies is loaded or refused with a fault of the audit: the fault of a day
that does not exist goes through the command. -/
theorem not_every_file_answered :
    ¬ (∀ (files : Files) (path : String) (bytes : List UInt8),
        files (tidyPath path) = some (.file bytes) →
        (∃ set, loadPolicies plainReading files path = .ok set) ∨
          ∃ f, loadPolicies plainReading files path = .error f ∧ f.stopsAudit = true) ∧
      run (onlyPolicies missingDay) ["p.yaml", "d.yaml"] = .error (.moment "" .day) := by
  have hload : ∀ g, loadPolicies g (onlyPolicies missingDay).files "p.yaml" =
      .error (.moment "" .day) := fun g =>
    loadPolicies_of_date (found_onlyPolicies missingDay) text_of_missingDay document_of_missingDay
  constructor
  · intro answered
    rcases answered _ _ _ (found_onlyPolicies missingDay) with ⟨set, hset⟩ | ⟨f, hf, hstops⟩
    · cases (hload plainReading).symm.trans hset
    · cases (hload plainReading).symm.trans hf
      cases hstops
  · rw [run_of_unloaded (prepare_onlyPolicies missingDay) (hload _)]
    rfl

end Command

end ConfigAudit
