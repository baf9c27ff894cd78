/-
# What setting up loggers leaves

Loggers are set up by requests, in any order and under any of their names, and messages are left in
between.  What becomes of a logger can be told from the requests that were carried out for it: its
level is that of the last one, and its handlers are those of the first one that asks for some,
unless it had handlers before.

* `loggerName_loggerName` : the full name of a logger is no longer changed;
* `LogBook.logger_configure` : what one request does to each logger;
* `Logger.settled` : what requests leave of a logger, told from the requests alone;
* `LogBook.logger_after` : a book has these loggers;
* `LogBook.loggers_settled` : so each logger has at most one handler of a kind, whatever is asked.
-/
import ConfigAudit.Logging.Loggers
import ConfigAudit.Proofs.Chain
import ConfigAudit.Proofs.Text.Rejoined

namespace ConfigAudit

/-! ## Names -/

/-- Whether a name is that of a component: it lies outside of the names of loggers. -/
def IsComponent (name : String) : Prop :=
  name ≠ rootLogger ∧ Text.beginsWith name (rootLogger ++ ".") = false

/-- The full name of the logger of a component. -/
def componentLogger (name : String) : String := rootLogger ++ "." ++ name

/-- The full names of loggers of components begin alike. -/
theorem beginsWith_componentLogger (name : String) :
    Text.beginsWith (componentLogger name) (rootLogger ++ ".") = true := by
  have hlist : (componentLogger name).toList = (rootLogger ++ ".").toList ++ name.toList :=
    String.toList_append
  rw [Text.beginsWith, Text.startsWith_iff, hlist]
  exact List.prefix_append _ _

/-- A component has the logger of its name below the root. -/
theorem loggerName_of_isComponent {name : String} (h : IsComponent name) :
    loggerName name = componentLogger name := by
  have hroot : (name == rootLogger) = false := beq_eq_false_iff_ne.2 h.1
  rw [loggerName, hroot, h.2]
  rfl

/-- The full name of a component's logger is kept. -/
theorem loggerName_componentLogger (name : String) :
    loggerName (componentLogger name) = componentLogger name := by
  rw [loggerName, beginsWith_componentLogger, Bool.or_true, if_pos rfl]

/-- The name of the root is kept. -/
theorem loggerName_root : loggerName rootLogger = rootLogger := by
  rw [loggerName, beq_self_eq_true, Bool.true_or, if_pos rfl]

/-- The full name of a logger is kept, whatever it was called at first. -/
theorem loggerName_loggerName (name : String) : loggerName (loggerName name) = loggerName name := by
  by_cases hkept : (name == rootLogger || Text.beginsWith name (rootLogger ++ ".")) = true
  · have hname : loggerName name = name := by rw [loggerName, if_pos hkept]
    rw [hname, hname]
  · have hname : loggerName name = componentLogger name := by
      rw [loggerName, if_neg hkept]
      rfl
    rw [hname, loggerName_componentLogger]

/-! ## Requests -/

namespace LogRequest

/-- The level that a request asks for, if there is one. -/
def level? (r : LogRequest) : Option Level := (Level.ofValue r.level).toOption

/-- The handlers that a request asks for. -/
def wanted (r : LogRequest) (name : String) : List Handler :=
  match Layout.make r.format r.times with
  | .error _ => []
  | .ok layout =>
    (if r.directory.isEmpty then []
      else [.file ⟨LogBook.filePath r.directory name, layout, r.capacity, r.backups⟩]) ++
    if r.console then [.console layout] else []

end LogRequest

/-- At most one handler writes to a file, and at most one to the console. -/
structure OneOfAKind (handlers : List Handler) : Prop where
  /-- At most one writes to a file. -/
  files : handlers.countP Handler.isFile ≤ 1
  /-- At most one writes to the console. -/
  consoles : handlers.countP Handler.isConsole ≤ 1

/-- A request asks for at most one handler of a kind. -/
theorem LogRequest.oneOfAKind_wanted (r : LogRequest) (name : String) :
    OneOfAKind (r.wanted name) := by
  unfold wanted
  split
  · exact ⟨Nat.zero_le _, Nat.zero_le _⟩
  · cases r.directory.isEmpty <;> cases r.console <;> constructor <;>
      simp [List.countP_cons, Handler.isFile, Handler.isConsole]

namespace LogBook

variable {b : LogBook} {disk : LogDisk} {r : LogRequest} {name : String}

/-- Handlers that are made are those that were asked for. -/
theorem eq_wanted_of_handlersFor {handlers : List Handler}
    (h : (handlersFor disk r name).2 = .ok handlers) : handlers = r.wanted name := by
  unfold handlersFor at h
  unfold LogRequest.wanted
  cases hlayout : Layout.make r.format r.times with
  | error f =>
      rw [hlayout] at h
      cases h
  | ok layout =>
      rw [hlayout] at h
      dsimp only at h ⊢
      cases hdirectory : r.directory.isEmpty with
      | true =>
          rw [hdirectory, if_pos rfl] at h
          cases h
          rfl
      | false =>
          rw [hdirectory, if_neg Bool.false_ne_true] at h
          split at h
          · cases h
          · split at h
            · cases h
            · cases h
              rfl

/-! ## One request -/

/-- A logger that is changed is the only one that is changed. -/
theorem logger_setLogger (b : LogBook) (name : String) (l : Logger) (n : String) :
    (b.setLogger name l).logger n = if n = name then l else b.logger n := by
  unfold setLogger logger
  rw [List.lookup_cons]
  by_cases hn : n = name
  · rw [if_pos hn, beq_iff_eq.2 hn]
    rfl
  · rw [if_neg hn, beq_eq_false_iff_ne.2 hn]
    dsimp only
    congr 1
    induction b.loggers with
    | nil => rfl
    | cons e es ih =>
        by_cases he : e.1 = name
        · rw [List.filter_cons_of_neg (by simp [he]), ih, List.lookup_cons,
            beq_eq_false_iff_ne.2 (he ▸ hn)]
        · rw [List.filter_cons_of_pos (by simp [he]), List.lookup_cons, List.lookup_cons, ih]

/-- The disk does not matter for the loggers. -/
theorem logger_withDisk (b : LogBook) (disk : LogDisk) (n : String) :
    ({ b with disk := disk } : LogBook).logger n = b.logger n := rfl

/-- Whether a call was carried out for a logger: this is what is answered then. -/
def isFor (n : String) : Except Fault String → Bool
  | .ok name => name == n
  | .error _ => false

/-- Whether the handlers that a request has to make can be made: its format is one, and its
directory and file can be created.  A logger that has handlers needs no others. -/
def canInstall (b : LogBook) (r : LogRequest) : Bool :=
  match loggerNameOf r.name with
  | .error _ => true
  | .ok name => !(b.logger name).handlers.isEmpty || (handlersFor b.disk r name).2.isOk

end LogBook

/-- A logger after a request has been carried out for it. -/
def Logger.served (l : Logger) (name : String) (r : LogRequest) : Logger :=
  ⟨r.level?.or l.level, if l.handlers.isEmpty then r.wanted name else l.handlers⟩

namespace LogBook

variable {b : LogBook} {r : LogRequest} {name : String}

/-- Loggers after one of them got a level, and handlers unless it had some. -/
theorem logger_install {level : Level} (hlevel : r.level? = some level)
    (can : (b.logger name).handlers = [] →
      ∃ handlers, (handlersFor b.disk r name).2 = .ok handlers) :
    (b.install r name level).2 = .ok () ∧ ∀ n, (b.install r name level).1.logger n =
      if n = name then (b.logger n).served n r else b.logger n := by
  have hserved : ∀ handlers, (if (b.logger name).handlers.isEmpty = true then r.wanted name
      else (b.logger name).handlers) = handlers →
      (b.logger name).served name r = ⟨some level, handlers⟩ := by
    rintro _ rfl
    rw [Logger.served, hlevel]
    rfl
  unfold install
  dsimp only
  cases hempty : (b.logger name).handlers.isEmpty with
  | false =>
      rw [Bool.not_false, if_pos rfl]
      refine ⟨rfl, fun n => ?_⟩
      rw [logger_setLogger]
      by_cases hn : n = name
      · subst hn
        rw [if_pos rfl, if_pos rfl, hserved _ (by rw [hempty, if_neg Bool.false_ne_true])]
      · rw [if_neg hn, if_neg hn]
  | true =>
      rw [Bool.not_true, if_neg Bool.false_ne_true]
      obtain ⟨handlers, hhandlers⟩ := can (List.isEmpty_iff.1 hempty)
      have hdisk :
          (b.setLogger name { b.logger name with level := some level }).disk = b.disk := rfl
      rw [hdisk]
      obtain ⟨disk, hmade⟩ : ∃ disk, handlersFor b.disk r name = (disk, .ok handlers) :=
        ⟨_, Prod.ext rfl hhandlers⟩
      rw [hmade]
      refine ⟨rfl, fun n => ?_⟩
      dsimp only
      rw [logger_setLogger, logger_withDisk, logger_setLogger]
      by_cases hn : n = name
      · subst hn
        rw [if_pos rfl, if_pos rfl,
          hserved _ (by rw [hempty, if_pos rfl, ← eq_wanted_of_handlersFor hhandlers])]
      · rw [if_neg hn, if_neg hn, if_neg hn]

/-- A request that names no logger changes nothing. -/
theorem configure_of_nameless {f : ValueFault} (h : loggerNameOf r.name = .error f) :
    b.configure r = (b, .error (.value f)) := by
  rw [configure, h]

/-- A request that asks for no level that there is changes nothing. -/
theorem configure_of_no_level {f : Fault} (hname : loggerNameOf r.name = .ok name)
    (h : Level.ofValue r.level = .error f) : b.configure r = (b, .error f) := by
  rw [configure, hname]
  dsimp only
  rw [h]

/-- A request for a level that there is is carried out, and serves the logger that it names and no
other one. -/
theorem configure_of_level {level : Level} (hname : loggerNameOf r.name = .ok name)
    (h : Level.ofValue r.level = .ok level) (can : b.canInstall r = true) :
    (b.configure r).2 = .ok name ∧ ∀ n, (b.configure r).1.logger n =
      if n = name then (b.logger n).served n r else b.logger n := by
  have hlevel : r.level? = some level := by
    rw [LogRequest.level?, h]
    rfl
  have hmade : (b.logger name).handlers = [] →
      ∃ handlers, (handlersFor b.disk r name).2 = .ok handlers := by
    intro hempty
    rw [canInstall, hname] at can
    dsimp only at can
    rw [hempty] at can
    exact exists_eq_ok_of_isOk can
  obtain ⟨hdone, hlogger⟩ := logger_install hlevel hmade
  obtain ⟨b', hb'⟩ : ∃ b', b.install r name level = (b', .ok ()) := ⟨_, Prod.ext rfl hdone⟩
  rw [hb'] at hlogger
  rw [configure, hname]
  dsimp only
  rw [h]
  dsimp only
  rw [hb']
  exact ⟨rfl, hlogger⟩

/-- A request is refused if it names no logger or asks for no level that there is, and nothing
changes; otherwise it is carried out for the logger that it names. -/
theorem configure_cases (b : LogBook) (r : LogRequest) (can : b.canInstall r = true) :
    (∃ f, b.configure r = (b, .error f)) ∨
      ∃ name level, loggerNameOf r.name = .ok name ∧ Level.ofValue r.level = .ok level ∧
        (b.configure r).2 = .ok name ∧ ∀ n, (b.configure r).1.logger n =
          if n = name then (b.logger n).served n r else b.logger n := by
  cases hname : loggerNameOf r.name with
  | error f => exact Or.inl ⟨_, configure_of_nameless hname⟩
  | ok name =>
      cases hlevel : Level.ofValue r.level with
      | error f => exact Or.inl ⟨f, configure_of_no_level hname hlevel⟩
      | ok level =>
          obtain ⟨hanswer, hlogger⟩ := configure_of_level hname hlevel can
          exact Or.inr ⟨name, level, rfl, rfl, hanswer, hlogger⟩

/-- **What one request does to each logger**: it serves the one that it is carried out for. -/
theorem logger_configure (b : LogBook) (r : LogRequest) (can : b.canInstall r = true) (n : String) :
    (b.configure r).1.logger n =
      if isFor n (b.configure r).2 then (b.logger n).served n r else b.logger n := by
  rcases configure_cases b r can with ⟨f, h⟩ | ⟨name, _, _, _, hanswer, hlogger⟩
  · rw [h, isFor, if_neg Bool.false_ne_true]
  · rw [hanswer, hlogger, isFor]
    by_cases hn : n = name
    · rw [if_pos hn, if_pos (beq_iff_eq.2 hn.symm)]
    · rw [if_neg hn, if_neg fun h => hn (beq_iff_eq.1 h).symm]

/-- Only the logger that a name means matters for what a request does. -/
theorem configure_rename (b : LogBook) (r : LogRequest) {v w : Value}
    (h : loggerNameOf v = loggerNameOf w) :
    b.configure { r with name := v } = b.configure { r with name := w } := by
  have hmade : ∀ disk name, handlersFor disk { r with name := v } name =
      handlersFor disk { r with name := w } name := fun _ _ => by
    simp only [handlersFor]
  have hinstall : ∀ name level, b.install { r with name := v } name level =
      b.install { r with name := w } name level := fun _ _ => by
    simp only [install, hmade]
  simp only [configure, h, hinstall]

/-! ## Requests and messages in a row -/

/-- What happens to loggers. -/
inductive Act where
  /-- One is set up. -/
  | setUp (r : LogRequest)
  /-- A message is left with one. -/
  | leave (e : Entry)

/-- A book after something has happened. -/
def act (b : LogBook) : Act → LogBook
  | .setUp r => (b.configure r).1
  | .leave e => b.leave e

/-- A book after some things have happened in a row. -/
def after (b : LogBook) (acts : List Act) : LogBook := acts.foldl act b

/-- The requests in a row, with their answers. -/
def calls (b : LogBook) : List Act → List (LogRequest × Except Fault String)
  | [] => []
  | .setUp r :: rest => (r, (b.configure r).2) :: calls (b.act (.setUp r)) rest
  | .leave e :: rest => calls (b.act (.leave e)) rest

/-- The requests that were carried out for a logger, in order. -/
def carriedOut (n : String) (cs : List (LogRequest × Except Fault String)) : List LogRequest :=
  (cs.filter fun c => isFor n c.2).map Prod.fst

/-- Whether all handlers can be made that requests in a row have to make. -/
def creatable (b : LogBook) : List Act → Bool
  | [] => true
  | .setUp r :: rest => b.canInstall r && creatable (b.act (.setUp r)) rest
  | .leave e :: rest => creatable (b.act (.leave e)) rest

/-- Messages leave the loggers alone. -/
theorem loggers_leave (b : LogBook) (e : Entry) : (b.leave e).loggers = b.loggers := by
  have hhandle : ∀ (h : Handler) (b : LogBook), (handle e b h).loggers = b.loggers := by
    intro h b
    cases h with
    | silent => rfl
    | console layout =>
        rw [handle]
        split <;> rfl
    | file f =>
        rw [handle]
        split <;> rfl
  have hfold : ∀ (hs : List Handler) (b : LogBook),
      (hs.foldl (handle e) b).loggers = b.loggers := by
    intro hs
    induction hs with
    | nil => exact fun _ => rfl
    | cons h hs ih => exact fun b => (ih _).trans (hhandle h b)
  have hresort : (b.lastResort e).loggers = b.loggers := by
    unfold lastResort
    split
    · split <;> rfl
    · rfl
  unfold leave
  split
  · split
    · exact hresort
    · exact hfold _ b
  · rfl

/-! ## What is left of a logger -/

end LogBook

/-- What requests leave of a logger: the level of the last one, and the handlers of the first one
that asks for some, unless the logger had handlers before. -/
def Logger.settled (l : Logger) (name : String) (rs : List LogRequest) : Logger :=
  ⟨(rs.filterMap LogRequest.level?).getLast?.or l.level,
    if l.handlers.isEmpty then ((rs.map (·.wanted name)).find? fun hs => !hs.isEmpty).getD []
    else l.handlers⟩

/-- No requests leave a logger as it is. -/
theorem Logger.settled_nil (l : Logger) (name : String) : l.settled name [] = l := by
  cases hempty : l.handlers.isEmpty with
  | false => simp [settled, hempty]
  | true =>
      rw [settled, hempty]
      simp [← List.isEmpty_iff.1 hempty]

/-- The first of several requests serves the logger before the others. -/
theorem Logger.settled_cons (l : Logger) (name : String) (r : LogRequest) (rs : List LogRequest) :
    l.settled name (r :: rs) = (l.served name r).settled name rs := by
  have hlevel : ((r :: rs).filterMap LogRequest.level?).getLast?.or l.level =
      (rs.filterMap LogRequest.level?).getLast?.or (r.level?.or l.level) := by
    rw [List.filterMap_cons]
    cases r.level? with
    | none => rfl
    | some level =>
        dsimp only
        rw [List.getLast?_cons]
        cases (rs.filterMap LogRequest.level?).getLast? <;> rfl
  have hhandlers : (if l.handlers.isEmpty then
        (((r :: rs).map (·.wanted name)).find? fun hs => !hs.isEmpty).getD [] else l.handlers) =
      if (l.served name r).handlers.isEmpty then
        ((rs.map (·.wanted name)).find? fun hs => !hs.isEmpty).getD []
      else (l.served name r).handlers := by
    rw [served]
    cases hempty : l.handlers.isEmpty with
    | false => simp [hempty]
    | true =>
        rw [if_pos rfl, if_pos rfl, List.map_cons, List.find?_cons]
        cases (r.wanted name).isEmpty <;> rfl
  rw [settled, settled, hlevel, hhandlers]
  rfl

/-- What requests leave of a logger with at most one handler of a kind has at most one, too. -/
theorem Logger.oneOfAKind_settled {l : Logger} (h : OneOfAKind l.handlers) (name : String)
    (rs : List LogRequest) : OneOfAKind (l.settled name rs).handlers := by
  rw [settled]
  cases l.handlers.isEmpty with
  | false => exact h
  | true =>
      dsimp only
      rw [if_pos rfl]
      cases hfirst : (rs.map (·.wanted name)).find? fun hs => !hs.isEmpty with
      | none => exact ⟨Nat.zero_le _, Nat.zero_le _⟩
      | some hs =>
          obtain ⟨r, _, rfl⟩ := List.mem_map.1 (List.mem_of_find?_eq_some hfirst)
          exact r.oneOfAKind_wanted name

namespace LogBook

/-- **What becomes of a logger** is what the requests leave of it that were carried out for it. -/
theorem logger_after (b : LogBook) (acts : List Act) (creatable : b.creatable acts = true)
    (n : String) : (b.after acts).logger n = (b.logger n).settled n (carriedOut n (b.calls acts)) := by
  induction acts generalizing b with
  | nil => exact (Logger.settled_nil _ _).symm
  | cons a rest ih =>
      cases a with
      | leave e =>
          have hsame : (b.act (.leave e)).logger n = b.logger n := by
            rw [logger, logger, act, loggers_leave]
          exact (ih _ creatable).trans (by rw [hsame, calls])
      | setUp r =>
          obtain ⟨can, creatable⟩ := Bool.and_eq_true_iff.1 creatable
          refine (ih _ creatable).trans ?_
          rw [act, logger_configure b r can, calls, carriedOut, carriedOut]
          cases hanswer : isFor n (b.configure r).2 with
          | false =>
              rw [List.filter_cons_of_neg (by simp [hanswer]), if_neg Bool.false_ne_true, act]
          | true =>
              rw [List.filter_cons_of_pos (by simp [hanswer]), List.map_cons, Logger.settled_cons,
                if_pos rfl, act]

/-- In a row of requests, each is carried out unless it names no logger or asks for no level that
there is. -/
theorem answer_of_mem_calls (b : LogBook) (acts : List Act) (creatable : b.creatable acts = true) :
    ∀ c ∈ b.calls acts, ∀ name, loggerNameOf c.1.name = .ok name →
      c.2 = (Level.ofValue c.1.level).map fun _ => name := by
  induction acts generalizing b with
  | nil => exact fun c hc => absurd hc List.not_mem_nil
  | cons a rest ih =>
      cases a with
      | leave e => exact ih _ creatable
      | setUp r =>
          obtain ⟨can, creatable⟩ := Bool.and_eq_true_iff.1 creatable
          intro c hc name hname
          rcases List.mem_cons.1 hc with rfl | hc
          · dsimp only at hname ⊢
            cases hlevel : Level.ofValue r.level with
            | error f =>
                rw [configure_of_no_level hname hlevel]
                rfl
            | ok level => exact (configure_of_level hname hlevel can).1
          · exact ih _ creatable c hc name hname

/-- What was carried out asks for a level that there is. -/
theorem exists_level_of_carriedOut (b : LogBook) (acts : List Act)
    (creatable : b.creatable acts = true) (n : String) :
    ∀ r ∈ carriedOut n (b.calls acts), ∃ level, r.level? = some level := by
  induction acts generalizing b with
  | nil => exact fun r hr => absurd hr List.not_mem_nil
  | cons a rest ih =>
      cases a with
      | leave e => exact ih _ creatable
      | setUp r =>
          obtain ⟨can, creatable⟩ := Bool.and_eq_true_iff.1 creatable
          rw [calls, carriedOut]
          rcases configure_cases b r can with ⟨f, h⟩ | ⟨_, level, _, hlevel, _⟩
          · rw [List.filter_cons_of_neg (by simp [h, isFor])]
            exact ih _ creatable
          · have hhere : ∃ level, r.level? = some level :=
              ⟨level, by rw [LogRequest.level?, hlevel]; rfl⟩
            rw [List.filter_cons]
            split
            · rw [List.map_cons]
              exact List.forall_mem_cons.2 ⟨hhere, ih _ creatable⟩
            · exact ih _ creatable

/-- If all requests ask for a level, the last level is that of the last request. -/
theorem getLast?_levels {rs : List LogRequest} (h : ∀ r ∈ rs, ∃ level, r.level? = some level) :
    (rs.filterMap LogRequest.level?).getLast? = rs.getLast?.bind LogRequest.level? := by
  rcases List.eq_nil_or_concat rs with rfl | ⟨front, last, rfl⟩
  · rfl
  · obtain ⟨level, hlevel⟩ := h last (by simp)
    rw [List.concat_eq_append, List.filterMap_append, List.getLast?_concat, List.filterMap_cons,
      hlevel]
    exact List.getLast?_concat.trans hlevel.symm

/-- **Loggers after any requests.**  Take any requests in a row, with messages left in between,
such that their handlers can be made.  Then each logger has at most one handler that writes to a
file and at most one for the console; its handlers are those of the first request carried out for
it that asks for some, unless it had handlers before; and its level is that of the last request
carried out for it.  A request is carried out if its level is known; one with an unknown level is
refused, at any moment, and changes nothing.  The name of a component and the full name of its
logger mean the same logger, and no full name, that of the root included, is changed again. -/
theorem loggers_settled (b : LogBook) (acts : List Act)
    (oneOfAKind : ∀ n, OneOfAKind (b.logger n).handlers) (creatable : b.creatable acts = true) :
    (∀ n, let l := (b.after acts).logger n
      let rs := carriedOut n (b.calls acts)
      OneOfAKind l.handlers ∧
      l.handlers = (if (b.logger n).handlers.isEmpty then
        ((rs.map (·.wanted n)).find? fun hs => !hs.isEmpty).getD [] else (b.logger n).handlers) ∧
      l.level = (rs.getLast?.bind LogRequest.level?).or (b.logger n).level) ∧
    (∀ c ∈ b.calls acts, ∀ name, loggerNameOf c.1.name = .ok name →
      c.2 = (Level.ofValue c.1.level).map fun _ => name) ∧
    (∀ (now : LogBook) (r : LogRequest) (name word : String), loggerNameOf r.name = .ok name →
      r.level.asText? = some word → Level.ofName? word = none →
      now.configure r = (now, .error (.config (.level r.level.plain)))) ∧
    (∀ name, IsComponent name → loggerName name = componentLogger name ∧
      ∀ (now : LogBook) (r : LogRequest), now.configure { r with name := .text name } =
        now.configure { r with name := .text (componentLogger name) }) ∧
    loggerName rootLogger = rootLogger ∧
    ∀ name, loggerName (loggerName name) = loggerName name := by
  refine ⟨fun n => ?_, answer_of_mem_calls b acts creatable, ?_, ?_, loggerName_root,
    loggerName_loggerName⟩
  · have hlogger := logger_after b acts creatable n
    refine ⟨?_, ?_, ?_⟩
    · rw [hlogger]
      exact Logger.oneOfAKind_settled (oneOfAKind n) n _
    · rw [hlogger]
      rfl
    · rw [hlogger, ← getLast?_levels (exists_level_of_carriedOut b acts creatable n)]
      rfl
  · intro now r name word hname hword hlevel
    refine configure_of_no_level hname ?_
    unfold Level.ofValue
    rw [hword]
    dsimp only
    rw [hlevel]
  · intro name hname
    have hsame : loggerNameOf (.text name) = loggerNameOf (.text (componentLogger name)) :=
      congrArg Except.ok ((loggerName_of_isComponent hname).trans
        (loggerName_componentLogger name).symm)
    exact ⟨loggerName_of_isComponent hname, fun now r => now.configure_rename r hsame⟩

/-- A request to set up a logger in the usual format. -/
def usualRequest (name level directory : String) (console : Bool) : LogRequest :=
  ⟨.text name, .text level, directory, "", "", console, 10485760, 5⟩

/-- One logger is set up four times, under both of its names: the first request asks for no
handlers, and the third one asks for a level that there is not. -/
def aliasRequests : List Act :=
  [.setUp (usualRequest "runner" "info" "" false),
    .setUp (usualRequest "netcomply.runner" "debug" "logs" true),
    .setUp (usualRequest "runner" "loud" "" true),
    .setUp (usualRequest "runner" "Warning" "other" false)]

/-- The logger has the two handlers that the second request asks for, and the level of the
fourth. -/
theorem settled_of_aliasRequests :
    (∀ n, OneOfAKind (empty.logger n).handlers) ∧ empty.creatable aliasRequests = true ∧
    ((empty.after aliasRequests).logger "netcomply.runner").handlers.map Handler.title =
      ["RotatingFileHandler", "StreamHandler"] ∧
    ((empty.after aliasRequests).logger "netcomply.runner").level = some .warning := by
  have hempty : ∀ n, OneOfAKind (empty.logger n).handlers := fun n =>
    ⟨Nat.zero_le _, Nat.zero_le _⟩
  have hcreatable : empty.creatable aliasRequests = true := by decide +kernel
  obtain ⟨hlogger, -⟩ := loggers_settled empty aliasRequests hempty hcreatable
  obtain ⟨-, hhandlers, hlevel⟩ := hlogger "netcomply.runner"
  refine ⟨hempty, hcreatable, ?_, ?_⟩
  · rw [hhandlers]
    decide +kernel
  · rw [hlevel]
    decide +kernel

end LogBook

end ConfigAudit
