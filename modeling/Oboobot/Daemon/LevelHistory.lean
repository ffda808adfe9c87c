import Oboobot.Daemon.TrueOpenFiles
import Oboobot.Interaction.Composed
import Oboobot.SessionTime.LevelBoundaries

/-! One True Open file over any sequence of calls: which level a price is compared
with, and until when. -/

namespace Oboobot.Daemon

open Domain SessionTime Strategy Risk Broker Interaction Daemon.Cycle

/-- A True Open file during a call, and the level that the call has compared its price with. -/
structure LevelFile where
  level : Option TrueOpenLevel
  compared : Option (Option TrueOpenLevel)

/-- A read finds what is on file. A write that fails may have replaced it or not. -/
def FileStep (file : String) (world : LevelFile) : CycleEvent → LevelFile → Prop
  | ⟨.readTrueOpen path, .ok found⟩, after => (path = file → found = world.level) ∧ after = world
  | ⟨.writeTrueOpen path written, .ok ()⟩, after =>
    after = if path = file then { world with level := some written } else world
  | ⟨.writeTrueOpen path written, .error _⟩, after =>
    after = world ∨ path = file ∧ after = { world with level := some written }
  | ⟨.observe (.trueOpenBias _ _ _ level _), _⟩, after =>
    after = { world with compared := some level }
  | _, after => after = world

/-- A call of `load_or_capture_bias`, and the file around it. -/
structure BiasCall where
  symbol : String
  price : Decimal
  now : Instant
  holidays : HolidayProvider
  before : Option TrueOpenLevel
  events : List CycleEvent
  outcome : Outcome CycleError Bias
  after : Option TrueOpenLevel
  compared : Option (Option TrueOpenLevel)

namespace BiasCall

variable (platform : Platform) (timeframe : Timeframe) (call : BiasCall)

def program : Cycle Bias :=
  loadOrCaptureBias platform timeframe call.symbol call.price call.now call.holidays

/-- The call may have run like this, to its end or not. -/
structure Runs : Prop where
  trace : Trace (call.program platform timeframe) call.events call.outcome
  steps : Steps (FileStep (trueOpenFile timeframe)) ⟨call.before, none⟩ call.events
    ⟨call.after, call.compared⟩

/-- The level that the call captures, if it has to. -/
def capture : Option TrueOpenLevel :=
  captureLevel platform.newYork timeframe call.symbol call.price call.now call.holidays

/-- The level that the call goes by. -/
def chosen : Option TrueOpenLevel :=
  if needsCapture call.now call.before then call.capture platform timeframe else call.before

/-- What may be on file and compared with at any moment of the call. -/
structure Holds (world : LevelFile) : Prop where
  level : world.level = call.before ∨
    needsCapture call.now call.before = true ∧ (call.capture platform timeframe).isSome = true ∧
      world.level = call.capture platform timeframe
  compared : ∀ compared ∈ world.compared, compared = call.chosen platform timeframe ∧
    ∀ level ∈ compared, world.level = some level

end BiasCall

/-- What a call promises about its file. -/
def fileContract (platform : Platform) (timeframe : Timeframe) (call : BiasCall) :
    Contract Call Reply LevelFile where
  step := FileStep (trueOpenFile timeframe)
  promise world _ := call.Holds platform timeframe world

/-- The comparison itself, once the level is chosen. -/
theorem compare_meets {platform : Platform} {timeframe : Timeframe} {call : BiasCall}
    {world : LevelFile} {level : Option TrueOpenLevel}
    (held : call.Holds platform timeframe world) (chosen : level = call.chosen platform timeframe)
    (onFile : ∀ found ∈ level, world.level = some found) :
    (do
        observe (.trueOpenBias timeframe call.symbol call.price level (impliedBias call.price level))
        pure (impliedBias call.price level) : Cycle Bias).Meets (fileContract platform timeframe call)
      (fun bias world => call.Holds platform timeframe world ∧
        ∃ compared, world.compared = some compared ∧ bias = impliedBias call.price compared)
      (fun _ world => call.Holds platform timeframe world) world := by
  simp only [meets_bind, meets_perform, meets_pure]
  refine ⟨held, ?_⟩
  rintro _ _ rfl
  refine ⟨⟨held.level, ?_⟩, level, rfl, rfl⟩
  intro compared same
  cases same
  exact ⟨chosen, onFile⟩

theorem program_meets (platform : Platform) (timeframe : Timeframe) (call : BiasCall) :
    (call.program platform timeframe).Meets (fileContract platform timeframe call)
      (fun bias world => call.Holds platform timeframe world ∧
        ∃ compared, world.compared = some compared ∧ bias = impliedBias call.price compared)
      (fun _ world => call.Holds platform timeframe world) ⟨call.before, none⟩ := by
  have start : call.Holds platform timeframe ⟨call.before, none⟩ :=
    ⟨.inl rfl, fun _ absent => by cases absent⟩
  unfold BiasCall.program loadOrCaptureBias loadOrCaptureLevel
  simp only [meets_bind, meets_perform, meets_ofExcept]
  refine ⟨start, ?_⟩
  intro reply world step
  cases reply with
  | error failure =>
    obtain rfl : world = ⟨call.before, none⟩ := step
    exact ⟨fun _ same => (by cases same), fun _ _ => start⟩
  | ok onFile =>
    obtain ⟨found, rfl⟩ := step
    obtain rfl := found rfl
    refine ⟨?_, fun _ same => (by cases same)⟩
    intro value same
    cases same
    by_cases needed : needsCapture call.now call.before = true
    · rw [if_pos needed]
      have chosen : call.capture platform timeframe = call.chosen platform timeframe :=
        (if_pos needed).symm
      cases captured : captureLevel platform.newYork timeframe call.symbol call.price call.now
        call.holidays with
      | none => exact compare_meets start (captured.symm.trans chosen) fun _ absent => (by cases absent)
      | some fresh =>
        have written : call.Holds platform timeframe ⟨some fresh, none⟩ :=
          ⟨.inr ⟨needed, by rw [BiasCall.capture, captured]; rfl, captured.symm⟩,
            fun _ absent => by cases absent⟩
        simp only [meets_bind, meets_perform, meets_ofExcept]
        refine ⟨start, ?_⟩
        intro reply world step
        cases reply with
        | error failure =>
          refine ⟨fun _ same => (by cases same), ?_⟩
          intro _ _
          rcases step with rfl | ⟨_, rfl⟩
          · exact start
          · exact written
        | ok done =>
          obtain rfl : world = ⟨some fresh, none⟩ := step.trans (if_pos rfl)
          refine ⟨?_, fun _ same => (by cases same)⟩
          intro _ _
          exact compare_meets written (captured.symm.trans chosen) fun _ same => same
    · rw [if_neg needed]
      exact compare_meets start (if_neg needed).symm fun _ same => same

section calls

variable {platform : Platform} {timeframe : Timeframe} {call : BiasCall}

/-- However far the call got, its file holds what it may, and a bias it returned was
read from the level it compared. -/
theorem BiasCall.Runs.holds (runs : call.Runs platform timeframe) :
    call.Holds platform timeframe ⟨call.after, call.compared⟩ ∧
      ∀ bias, call.outcome = .done bias →
        call.compared = some (call.chosen platform timeframe) ∧
          bias = impliedBias call.price (call.chosen platform timeframe) := by
  obtain ⟨rest, meets, ends⟩ := (program_meets platform timeframe call).after_steps runs.trace runs.steps
  have held : call.Holds platform timeframe ⟨call.after, call.compared⟩ := by
    cases rest with
    | done bias => exact meets.1
    | fail failure => exact meets
    | request other next => exact meets.1
  refine ⟨held, ?_⟩
  intro bias finished
  rw [ends bias finished] at meets
  obtain ⟨_, compared, same, biased⟩ := meets
  obtain ⟨rfl, _⟩ := held.compared compared same
  exact ⟨same, biased⟩

/-- In a partial week, the weekly bias is neutral exactly if no level on file is still
in force, unless that one stands at the price. -/
theorem weeklyBias_neutral_iff (runs : call.Runs platform .weekly)
    (partialWeek :
      weekQualifiesForWeeklyTrueOpen platform.newYork call.now call.holidays = false)
    {bias : Bias} (returned : call.outcome = .done bias) :
    bias = .neutral ↔ ∀ level ∈ call.before,
      level.isExpired call.now = true ∨ level.level = call.price := by
  obtain ⟨_, rfl⟩ := runs.holds.2 bias returned
  have refused : call.capture platform .weekly = none := by
    simp only [BiasCall.capture, captureLevel]
    rw [weekQualifiesForWeeklyTrueOpen] at partialWeek
    rw [partialWeek]
    rfl
  by_cases needed : needsCapture call.now call.before = true
  · have neutral : call.chosen platform .weekly = none := (if_pos needed).trans refused
    rw [neutral]
    refine iff_of_true rfl fun level onFile => .inl ?_
    rwa [Option.mem_def.mp onFile] at needed
  · have current : call.chosen platform .weekly = call.before := if_neg needed
    rw [current]
    cases onFile : call.before with
    | none => exact absurd (congrArg (needsCapture call.now) onFile) needed
    | some level =>
      rw [onFile, needsCapture] at needed
      simp only [impliedBias_neutral_iff, Option.mem_def, Option.some.injEq, forall_eq']
      exact (or_iff_right needed).symm

end calls

/-- The level on file after these calls, on a file that was not there before them. -/
def contentAfter (calls : List BiasCall) : Option TrueOpenLevel :=
  calls.getLast?.bind BiasCall.after

/-- Calls on one file, one after the other, as time goes on. -/
def FileHistory (platform : Platform) (timeframe : Timeframe) (calls : List BiasCall) : Prop :=
  Always (fun earlier call => call.Runs platform timeframe ∧ call.before = contentAfter earlier ∧
    ∀ last ∈ earlier.getLast?, last.now ≤ call.now) calls

/-- A level stays on file up to the first boundary after it was captured, every price
is compared with it until then, and none from then on. -/
structure KeptUntilBoundary (newYork : NewYork) (timeframe : Timeframe) (calls : List BiasCall) :
    Prop where
  /-- The level on file changes only on a call at or after its expiry. -/
  changes : ∀ call ∈ calls, ∀ level, call.before = some level → call.after ≠ some level →
    level.expiresAt ≤ call.now
  /-- A level on file was captured by a call so far, at its time and price, and expires at
  the first boundary after that. -/
  captured : Always (fun earlier call => ∀ level, call.after = some level →
    (∃ capture ∈ earlier ++ [call], capture.now = level.setAt ∧ capture.price = level.level ∧
      capture.after = some level) ∧
    IsLeast {boundary : Int | level.setAt < boundary ∧ timeframe.IsBoundary newYork boundary}
      level.expiresAt) calls
  /-- A price is compared with the level on file, and only before it expires. -/
  compared : ∀ call ∈ calls, ∀ level, call.compared = some (some level) →
    call.after = some level ∧ level.setAt ≤ call.now ∧ call.now < level.expiresAt
  /-- A call that returns a bias has read it from its comparison, or from no level at all. -/
  biased : ∀ call ∈ calls, ∀ bias, call.outcome = .done bias →
    ∃ level, call.compared = some level ∧ bias = impliedBias call.price level
  /-- Once a call has left a level on file, all calls before its expiry compare with it. -/
  kept : ∀ front capture middle later back,
    calls = front ++ capture :: (middle ++ later :: back) → ∀ level, capture.after = some level →
    later.now < level.expiresAt → later.before = some level ∧ later.after = some level ∧
      ∀ compared ∈ later.compared, compared = some level

@[simp] theorem contentAfter_append (earlier : List BiasCall) (call : BiasCall) :
    contentAfter (earlier ++ [call]) = call.after := by
  simp [contentAfter]

section history

variable {platform : Platform} {timeframe : Timeframe} {calls earlier back : List BiasCall}
  {call : BiasCall} {level : TrueOpenLevel}

/-- A call that finds a level in force leaves it alone and goes by it. -/
theorem BiasCall.Runs.keeps (runs : call.Runs platform timeframe)
    (onFile : call.before = some level) (inForce : call.now < level.expiresAt) :
    call.after = some level ∧ ∀ compared ∈ call.compared, compared = some level := by
  obtain ⟨held, _⟩ := runs.holds
  have current : needsCapture call.now call.before = false := by
    rw [onFile]
    simpa [needsCapture, TrueOpenLevel.isExpired] using inForce
  have chosen : call.chosen platform timeframe = some level := by
    rw [BiasCall.chosen, current, ← onFile]
    rfl
  constructor
  · rcases held.level with same | ⟨needed, _⟩
    · exact same.trans onFile
    · exact absurd (needed.symm.trans current) (by decide)
  · intro compared same
    exact (held.compared compared same).1.trans chosen

/-- A level that a call leaves on file was there before, or is captured at its time and price. -/
theorem BiasCall.Runs.after_cases (runs : call.Runs platform timeframe)
    (onFile : call.after = some level) : call.before = some level ∨
      call.now = level.setAt ∧ call.price = level.level ∧
        IsLeast {boundary : Int | level.setAt < boundary ∧
          timeframe.IsBoundary platform.newYork boundary} level.expiresAt := by
  rcases runs.holds.1.level with same | ⟨_, _, fresh⟩
  · exact .inl (same.symm.trans onFile)
  · obtain ⟨setAt, price, least⟩ := captureLevel_spec (fresh.symm.trans onFile)
    exact .inr ⟨setAt.symm, price.symm, setAt ▸ least⟩

theorem FileHistory.front (history : FileHistory platform timeframe (earlier ++ back)) :
    FileHistory platform timeframe earlier :=
  Always.front history

/-- The level on file has been captured by one of the calls. -/
theorem FileHistory.onFile (history : FileHistory platform timeframe calls)
    (content : contentAfter calls = some level) :
    (∃ capture ∈ calls, capture.now = level.setAt ∧ capture.price = level.level ∧
      capture.after = some level) ∧
    IsLeast {boundary : Int | level.setAt < boundary ∧
      timeframe.IsBoundary platform.newYork boundary} level.expiresAt := by
  induction calls using List.reverseRecOn with
  | nil => cases content
  | append_singleton earlier call ih =>
    rw [contentAfter_append] at content
    obtain ⟨runs, before, _⟩ := history.last
    rcases runs.after_cases content with kept | ⟨now, price, least⟩
    · obtain ⟨⟨capture, member, facts⟩, least⟩ := ih history.front (before.symm.trans kept)
      exact ⟨⟨capture, List.mem_append_left _ member, facts⟩, least⟩
    · exact ⟨⟨call, by simp, now, price, content⟩, least⟩

/-- Time goes on. -/
theorem FileHistory.now_le (history : FileHistory platform timeframe (earlier ++ call :: back))
    {before : BiasCall} (member : before ∈ earlier) : before.now ≤ call.now := by
  induction earlier using List.reverseRecOn generalizing call back with
  | nil => cases member
  | append_singleton front last ih =>
    have order : last.now ≤ call.now := (history _ _ _ rfl).2.2 last (by simp)
    rcases List.mem_append.mp member with old | same
    · rw [List.append_assoc, List.singleton_append] at history
      exact (ih history old).trans order
    · exact (List.mem_singleton.mp same) ▸ order

/-- A level stays on file as long as no call comes at or after its expiry. -/
theorem FileHistory.contentAfter_eq {front middle : List BiasCall} {capture : BiasCall}
    (history : FileHistory platform timeframe (front ++ capture :: middle))
    (onFile : capture.after = some level) (inForce : ∀ call ∈ middle, call.now < level.expiresAt) :
    contentAfter (front ++ capture :: middle) = some level := by
  induction middle using List.reverseRecOn with
  | nil => rw [contentAfter_append, onFile]
  | append_singleton middle last ih =>
    rw [← List.cons_append, ← List.append_assoc] at history ⊢
    obtain ⟨runs, before, _⟩ := history.last
    have content := ih history.front fun call member => inForce call (List.mem_append_left _ member)
    rw [contentAfter_append]
    exact (runs.keeps (before.trans content) (inForce last (by simp))).1

/-- Every history of a True Open file keeps its levels from their capture to their boundary. -/
theorem keptUntilBoundary (history : FileHistory platform timeframe calls) :
    KeptUntilBoundary platform.newYork timeframe calls := by
  have runsOf (call : BiasCall) (member : call ∈ calls) : call.Runs platform timeframe := by
    obtain ⟨earlier, back, same⟩ := List.append_of_mem member
    exact (history earlier call back same).1
  constructor
  case changes =>
    intro call member level before changed
    by_contra early
    exact changed ((runsOf call member).keeps before (not_le.mp early)).1
  case captured =>
    intro earlier call back same level onFile
    subst same
    rw [← List.singleton_append, ← List.append_assoc] at history
    exact history.front.onFile (by rw [contentAfter_append, onFile])
  case compared =>
    intro call member level same
    obtain ⟨earlier, back, rfl⟩ := List.append_of_mem member
    obtain ⟨runs, before, _⟩ := history earlier call back rfl
    obtain ⟨chosen, onFile⟩ := runs.holds.1.compared _ same
    refine ⟨onFile level rfl, ?_⟩
    by_cases needed : needsCapture call.now call.before = true
    · rw [BiasCall.chosen, if_pos needed] at chosen
      obtain ⟨setAt, _, least⟩ := captureLevel_spec chosen.symm
      exact ⟨le_of_eq setAt, least.1.1⟩
    · rw [BiasCall.chosen, if_neg needed] at chosen
      have content : contentAfter earlier = some level := before.symm.trans chosen.symm
      obtain ⟨⟨capture, captured, setAt, _⟩, _⟩ := history.front.onFile content
      refine ⟨setAt ▸ history.now_le captured, ?_⟩
      rw [← chosen] at needed
      simpa [needsCapture, TrueOpenLevel.isExpired] using needed
  case biased =>
    intro call member bias returned
    obtain ⟨same, biased⟩ := (runsOf call member).holds.2 bias returned
    exact ⟨_, same, biased⟩
  case kept =>
    rintro front capture middle later back rfl level onFile inForce
    have split : front ++ capture :: (middle ++ later :: back) =
        (front ++ capture :: middle) ++ later :: back := by simp
    rw [split] at history
    obtain ⟨runs, before, _⟩ := history _ later back rfl
    have content := history.front.contentAfter_eq onFile fun call member =>
      (history.now_le (by simp [member])).trans_lt inForce
    have found := before.trans content
    exact ⟨found, runs.keeps found inForce⟩

end history

section played

variable (platform : Platform) (timeframe : Timeframe) (symbol : String) (price : Decimal)
  (now : Instant) (host : Host)

def playBias : List CycleEvent × Outcome CycleError Bias × Host :=
  (loadOrCaptureBias platform timeframe symbol price now staticHolidayProvider).play Host.answer host

/-- A call that runs on a host. -/
def playedCall : BiasCall where
  symbol := symbol
  price := price
  now := now
  holidays := staticHolidayProvider
  before := host.trueOpens (trueOpenFile timeframe)
  events := (playBias platform timeframe symbol price now host).1
  outcome := (playBias platform timeframe symbol price now host).2.1
  after := (playBias platform timeframe symbol price now host).2.2.trueOpens (trueOpenFile timeframe)
  compared := some (if needsCapture now (host.trueOpens (trueOpenFile timeframe)) then
      captureLevel platform.newYork timeframe symbol price now staticHolidayProvider
    else host.trueOpens (trueOpenFile timeframe))

/-- A host keeps its files as they are to be kept. -/
theorem fileStep_answer {file : String} {host : Host} {world : LevelFile}
    (same : world.level = host.trueOpens file) (call : Call) : ∃ after : LevelFile,
      FileStep file world ⟨call, (host.answer call).1⟩ after ∧
        after.level = (host.answer call).2.trueOpens file := by
  cases call with
  | readTrueOpen path =>
    refine ⟨world, ⟨?_, rfl⟩, same⟩
    rintro rfl
    exact same.symm
  | writeTrueOpen path written =>
    refine ⟨_, rfl, ?_⟩
    change _ = (host.trueOpens.insert path written) file
    unfold BTreeMap.insert
    by_cases here : path = file
    · simp [here]
    · simp [here, Ne.symm here, same]
  | observe observation =>
    cases observation with
    | trueOpenBias _ _ _ level _ => exact ⟨{ world with compared := some level }, rfl, same⟩
    | _ => exact ⟨world, rfl, same⟩
  | closePosition id =>
    refine ⟨world, rfl, same.trans ?_⟩
    change _ = (host.closePosition id).2.trueOpens file
    unfold Host.closePosition
    split <;> rfl
  | _ => exact ⟨world, rfl, same⟩

theorem playedCall_runs
    (finished : (playBias platform timeframe symbol price now host).2.1.isDone = true) :
    (playedCall platform timeframe symbol price now host).Runs platform timeframe := by
  let call := playedCall platform timeframe symbol price now host
  have faithful : ∀ (host : Host) (world : LevelFile) (asked : Call),
      world.level = host.trueOpens (trueOpenFile timeframe) →
      (fileContract platform timeframe call).promise world asked →
      ∃ after, (fileContract platform timeframe call).step world ⟨asked, (host.answer asked).1⟩
        after ∧ after.level = (host.answer asked).2.trueOpens (trueOpenFile timeframe) :=
    fun host world asked same _ => fileStep_answer same asked
  have start : (LevelFile.mk call.before none).level = host.trueOpens (trueOpenFile timeframe) := rfl
  have trace := (loadOrCaptureBias platform timeframe symbol price now
    staticHolidayProvider).play_trace Host.answer host
  refine ⟨trace, ?_⟩
  obtain ⟨final, reached, steps, ends⟩ :=
    (program_meets platform timeframe call).played faithful start
  rcases ends with ⟨bias, _, held, compared, same, _⟩ | ⟨failure, failed, _⟩
  · obtain ⟨rfl, _⟩ := held.compared compared same
    have whole : final = ⟨call.after, call.compared⟩ := by
      cases final
      exact congrArg₂ LevelFile.mk reached same
    exact whole ▸ steps
  · have outcome : (playBias platform timeframe symbol price now host).2.1 = .failed failure := failed
    rw [outcome] at finished
    cases finished

end played

def tuesdayMorning : Instant := Duration.days 19346 + Duration.hours 15

/-- A level is captured on Tuesday, 20 December 2022. -/
def tuesdayCall : BiasCall :=
  playedCall .winter .weekly "EURUSD" 1.10 tuesdayMorning (Host.fresh .default .empty)

/-- A price is compared on the evening of Christmas Day, a Sunday whose week has no open. -/
def christmasCall : BiasCall :=
  playedCall .winter .weekly "EURUSD" 1.11 (Duration.days 19352 + Duration.hours 1)
    (playBias .winter .weekly "EURUSD" 1.10 tuesdayMorning (Host.fresh .default .empty)).2.2

theorem christmasCall_runs : christmasCall.Runs .winter .weekly :=
  playedCall_runs _ _ _ _ _ _ (by decide +kernel)

theorem christmas_history : FileHistory .winter .weekly ([tuesdayCall] ++ [christmasCall]) := by
  refine (always_cons _ _).mpr ⟨⟨?_, rfl, fun _ absent => by cases absent⟩,
    (always_cons _ _).mpr ⟨⟨christmasCall_runs, rfl, ?_⟩, always_nil⟩⟩
  · exact playedCall_runs _ _ _ _ _ _ (by decide +kernel)
  · intro last same
    cases same
    decide

/-- The outcome of the second call, as far as it can be told apart. -/
def isBuy : Outcome CycleError Bias → Bool
  | .done .buy => true
  | _ => false

theorem eq_of_isBuy {outcome : Outcome CycleError Bias} (buys : isBuy outcome = true) :
    outcome = .done .buy := by
  unfold isBuy at buys
  split at buys
  · rfl
  · cases buys

theorem christmas_kept :
    KeptUntilBoundary .standardTime .weekly ([tuesdayCall] ++ [christmasCall]) :=
  keptUntilBoundary christmas_history

theorem christmasCall_buy : christmasCall.outcome = .done .buy := eq_of_isBuy (by decide +kernel)

theorem christmasCall_neutral_iff : Bias.buy = .neutral ↔ ∀ level ∈ christmasCall.before,
    level.isExpired christmasCall.now = true ∨ level.level = christmasCall.price :=
  weeklyBias_neutral_iff christmasCall_runs (by decide +kernel) christmasCall_buy

/-- The level of the week before still decides on that evening. -/
theorem christmasCall_not_neutral :
    ¬∀ (platform : Platform) (earlier : List BiasCall) (call : BiasCall) (bias : Bias),
      FileHistory platform .weekly (earlier ++ [call]) →
      weekQualifiesForWeeklyTrueOpen platform.newYork call.now call.holidays = false →
      call.outcome = .done bias → bias = .neutral := by
  intro claimed
  have neutral := claimed .winter [tuesdayCall] christmasCall .buy christmas_history
    (by decide +kernel) christmasCall_buy
  exact absurd neutral (by decide)

end Oboobot.Daemon
