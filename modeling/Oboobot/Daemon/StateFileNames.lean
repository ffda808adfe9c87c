import Oboobot.Daemon.WindowFiles
import Oboobot.Interaction.Composed
import Oboobot.Persistence.Paths
import Mathlib.Data.List.Pairwise

/-! The state files that are named after pairs: where they lie, and which pair-sets
share them. -/

namespace Oboobot.Daemon

open Domain SessionTime Strategy Risk Broker Interaction Daemon.Cycle
open Persistence (DirectChild join directChild_join_iff)

/-- The files a round of the market-state loop keeps for its pair-set. -/
def stateFiles (pairConfig : PairConfig) : List String :=
  [bufferDailyFile pairConfig.primary, bufferDailyFile pairConfig.secondary,
    bufferSessionFile pairConfig.primary, bufferSessionFile pairConfig.secondary,
    correlationFile pairConfig.primary pairConfig.secondary, spreadHistoryFile pairConfig.primary]

/-- The file that a call reads or replaces as a snapshot of a pair. -/
def Call.pairFile : Call → Option String
  | .readBuffer file | .writeBuffer file _ => some file
  | .readCorrelation file | .writeCorrelation file _ => some file
  | .readSpreadHistory file | .writeSpreadHistory file _ => some file
  | _ => none

section rounds

variable {platform : Platform} {divergence : DivergenceSource} {config : Config}
  {snapshot : BrokerSnapshot} {now : Instant}

/-- A call to one of the files of the pair-set, or to none. -/
def KeepsTo (pairConfig : PairConfig) (call : Call) : Prop :=
  ∀ file ∈ call.pairFile, file ∈ stateFiles pairConfig

theorem refreshBuffer_keepsTo {pairConfig : PairConfig} {file : String}
    (listed : file ∈ stateFiles pairConfig)
    (update : Option RollingBuffer → Decimal → Instant → RollingBuffer) (price : Decimal) :
    (refreshBuffer file update price now).Yields (KeepsTo pairConfig) fun _ => True := by
  have keeps : ∀ other ∈ some file, other ∈ stateFiles pairConfig := by simpa using listed
  unfold refreshBuffer
  simp only [yields_bind, yields_perform, yields_ofExcept, yields_pure]
  exact ⟨keeps, fun _ _ _ => ⟨keeps, fun _ _ _ => trivial⟩⟩

theorem keepsTo_of_fileless {pairConfig : PairConfig} {call : Call}
    (fileless : call.pairFile = none) : KeepsTo pairConfig call := by
  intro file found
  rw [fileless] at found
  cases found

theorem seedCorrelation_keepsTo (pairConfig : PairConfig) (primary secondary : String)
    (state : CorrelationState) :
    (seedCorrelation primary secondary now state).Yields (KeepsTo pairConfig) fun _ => True := by
  unfold seedCorrelation backfillCorrelation
  split
  · simp only [yields_bind, yields_perform]
    refine ⟨keepsTo_of_fileless rfl, fun reply => ?_⟩
    cases reply with
    | error failure => trivial
    | ok primaryHistory =>
      simp only [yields_bind, yields_perform]
      refine ⟨keepsTo_of_fileless rfl, fun reply => ?_⟩
      cases reply <;> trivial
  · trivial

theorem recordCorrelation_keepsTo (pairConfig : PairConfig) (primaryPrice secondaryPrice : Decimal) :
    (recordCorrelation platform config pairConfig.primary pairConfig.secondary primaryPrice
      secondaryPrice now).Yields (KeepsTo pairConfig) fun _ => True := by
  have keeps : ∀ file ∈ some (correlationFile pairConfig.primary pairConfig.secondary),
      file ∈ stateFiles pairConfig := by simp [stateFiles]
  unfold recordCorrelation
  simp only [yields_bind, yields_perform, yields_ofExcept]
  refine ⟨keeps, fun _ stored _ => ?_⟩
  apply (seedCorrelation_keepsTo pairConfig _ _ _).weaken
  intro seeded _
  refine ⟨keeps, fun _ _ _ => ?_⟩
  split
  · exact ⟨keepsTo_of_fileless rfl, fun _ _ _ => trivial⟩
  · trivial

theorem recordSpread_keepsTo (pairConfig : PairConfig) (spread : Decimal) :
    (recordSpread pairConfig.primary spread now).Yields (KeepsTo pairConfig) fun _ => True := by
  have keeps : ∀ file ∈ some (spreadHistoryFile pairConfig.primary),
      file ∈ stateFiles pairConfig := by simp [stateFiles]
  unfold recordSpread
  simp only [yields_bind, yields_perform, yields_ofExcept, yields_pure]
  exact ⟨keeps, fun _ _ _ => ⟨keeps, fun _ _ _ => trivial⟩⟩

/-- A round uses no other files than those. -/
theorem readPairSet_keepsTo (pairConfig : PairConfig) :
    (readPairSet platform divergence config snapshot now pairConfig).Yields (KeepsTo pairConfig)
      fun _ => True := by
  have refreshed {β : Type} {file : String} (listed : file ∈ stateFiles pairConfig)
      (update : Option RollingBuffer → Decimal → Instant → RollingBuffer) (price : Decimal)
      {next : RollingBuffer → Cycle β}
      (rest : ∀ buffer, (next buffer).Yields (KeepsTo pairConfig) fun _ => True) :
      (refreshBuffer file update price now >>= next).Yields (KeepsTo pairConfig) fun _ => True := by
    rw [yields_bind]
    exact (refreshBuffer_keepsTo listed update price).weaken fun buffer _ => rest buffer
  unfold readPairSet
  refine refreshed (by simp [stateFiles]) _ _ fun dailyPrimary => ?_
  refine refreshed (by simp [stateFiles]) _ _ fun dailySecondary => ?_
  refine refreshed (by simp [stateFiles]) _ _ fun sessionPrimary => ?_
  refine refreshed (by simp [stateFiles]) _ _ fun sessionSecondary => ?_
  rw [yields_bind]
  apply (recordCorrelation_keepsTo pairConfig _ _).weaken
  intro correlation _
  rw [yields_bind]
  apply (recordSpread_keepsTo pairConfig _).weaken
  intro spread _
  exact ⟨keepsTo_of_fileless rfl, fun _ _ _ => trivial⟩

end rounds

section names

/-- A file named `label`, `middle`, `.json` lies in the directory as long as `middle` has
no slash. -/
theorem directChild_json {label middle : String} (directory : String) {first : Char}
    {rest : List Char} (begins : label.toList = first :: rest)
    (letter : first ≠ '/' ∧ first ≠ '.') (plain : '/' ∉ label.toList) :
    DirectChild directory (join directory (label ++ middle ++ ".json")) ↔ '/' ∉ middle.toList :=
  directChild_join_iff directory begins letter.1 letter.2 plain
    (by decide : 'n' ∈ ".json".toList) (by decide) (by decide) (by decide)

theorem directChild_bufferDailyFile (directory symbol : String) :
    DirectChild directory (join directory (bufferDailyFile symbol)) ↔ '/' ∉ symbol.toList :=
  directChild_json directory rfl (by decide) (by decide)

theorem directChild_bufferSessionFile (directory symbol : String) :
    DirectChild directory (join directory (bufferSessionFile symbol)) ↔ '/' ∉ symbol.toList :=
  directChild_json directory rfl (by decide) (by decide)

theorem directChild_spreadHistoryFile (directory symbol : String) :
    DirectChild directory (join directory (spreadHistoryFile symbol)) ↔ '/' ∉ symbol.toList :=
  directChild_json directory rfl (by decide) (by decide)

theorem correlationFile_eq (primary secondary : String) :
    correlationFile primary secondary =
      "correlation_" ++ (primary ++ "_" ++ secondary) ++ ".json" := by
  unfold correlationFile
  rw [← String.append_assoc, ← String.append_assoc]

theorem directChild_correlationFile (directory primary secondary : String) :
    DirectChild directory (join directory (correlationFile primary secondary)) ↔
      '/' ∉ primary.toList ∧ '/' ∉ secondary.toList := by
  have slash : '/' ∉ (primary ++ "_" ++ secondary).toList ↔
      '/' ∉ primary.toList ∧ '/' ∉ secondary.toList := by
    simp
  rw [correlationFile_eq, ← slash]
  exact directChild_json directory rfl (by decide) (by decide)

theorem spreadHistoryFile_inj {first second : String} :
    spreadHistoryFile first = spreadHistoryFile second ↔ first = second := by
  unfold spreadHistoryFile
  rw [String.append_left_inj, String.append_right_inj]

/-- Where a list can be cut at the same value in two ways, the parts of one reach into
those of the other. -/
theorem append_cons_eq_iff {α : Type} {value : α} {front back front' back' : List α} :
    front ++ value :: back = front' ++ value :: back' ↔
      (front = front' ∧ back = back') ∨
      (∃ between, front' = front ++ value :: between ∧ back = between ++ value :: back') ∨
      ∃ between, front = front' ++ value :: between ∧ back' = between ++ value :: back := by
  constructor
  · intro same
    rcases List.append_eq_append_iff.mp same with ⟨rest, rfl, tail⟩ | ⟨rest, rfl, tail⟩
    · cases rest with
      | nil => exact .inl ⟨by simp, (List.cons_eq_cons.mp tail).2⟩
      | cons head between =>
        obtain ⟨rfl, rfl⟩ := List.cons_eq_cons.mp tail
        exact .inr (.inl ⟨between, rfl, rfl⟩)
    · cases rest with
      | nil => exact .inl ⟨by simp, (List.cons_eq_cons.mp tail).2.symm⟩
      | cons head between =>
        obtain ⟨rfl, rfl⟩ := List.cons_eq_cons.mp tail
        exact .inr (.inr ⟨between, rfl, rfl⟩)
  · rintro (⟨rfl, rfl⟩ | ⟨between, rfl, rfl⟩ | ⟨between, rfl, rfl⟩) <;> simp

/-- One pair-set's primary goes on where the other's ends, with what its secondary
begins with. -/
def Straddles (first second : PairConfig) : Prop :=
  ∃ between, second.primary = first.primary ++ "_" ++ between ∧
    first.secondary = between ++ "_" ++ second.secondary

theorem straddles_iff {first second : PairConfig} :
    Straddles first second ↔ ∃ between,
      second.primary.toList = first.primary.toList ++ '_' :: between ∧
      first.secondary.toList = between ++ '_' :: second.secondary.toList := by
  constructor
  · intro straddles
    obtain ⟨between, primary, secondary⟩ := straddles
    exact ⟨between.toList, by simp [primary], by simp [secondary]⟩
  · intro spelled
    obtain ⟨between, primary, secondary⟩ := spelled
    refine ⟨.ofList between, ?_, ?_⟩ <;> rw [← String.toList_inj]
    · simp [primary]
    · simp [secondary]

/-- Correlation files coincide where an underscore can belong to either name. -/
theorem correlationFile_eq_iff {first second : PairConfig} :
    correlationFile first.primary first.secondary =
        correlationFile second.primary second.secondary ↔
      first = second ∨ Straddles first second ∨ Straddles second first := by
  have joined (pairConfig : PairConfig) :
      (pairConfig.primary ++ "_" ++ pairConfig.secondary).toList =
        pairConfig.primary.toList ++ '_' :: pairConfig.secondary.toList := by
    simp
  have same : first = second ↔ first.primary.toList = second.primary.toList ∧
      first.secondary.toList = second.secondary.toList := by
    rw [String.toList_inj, String.toList_inj]
    cases first
    cases second
    rw [PairConfig.mk.injEq]
  rw [correlationFile_eq, correlationFile_eq, String.append_left_inj, String.append_right_inj,
    ← String.toList_inj, joined, joined, append_cons_eq_iff, straddles_iff, straddles_iff, same]

end names

/-- The names of the pair-sets keep their files in the directory and apart. -/
structure NamesApart (pairs : List PairConfig) : Prop where
  slashless : ∀ pairConfig ∈ pairs,
    '/' ∉ pairConfig.primary.toList ∧ '/' ∉ pairConfig.secondary.toList
  primaries : (pairs.map PairConfig.primary).Nodup
  straddle : ∀ first ∈ pairs, ∀ second ∈ pairs, ¬Straddles first second

/-- Every pair-set has files of its own, directly in the state directory, and a cycle
records one sample in each of its windows and none in another's. -/
structure FilesApart (pairs : List PairConfig) : Prop where
  inside : ∀ directory, ∀ pairConfig ∈ pairs, ∀ file ∈ stateFiles pairConfig,
    DirectChild directory (join directory file)
  usedInside : ∀ platform divergence config snapshot now events outcome directory,
    ∀ pairConfig ∈ pairs,
    Trace (readPairSet platform divergence config snapshot now pairConfig) events outcome →
    ∀ event ∈ events, ∀ file ∈ event.call.pairFile, DirectChild directory (join directory file)
  separate : pairs.Pairwise SeparateFiles
  oneSample : ∀ platform divergence config snapshot now files after events readings,
    config.pairs = pairs →
    Trace (readPairSets platform divergence config snapshot now) events (.done readings) →
    Steps WindowFiles.Step files events after → SampledSoFar files after snapshot now pairs
  undisturbed : ∀ platform divergence config snapshot now files after events reading,
    ∀ first ∈ pairs, ∀ second ∈ pairs, first ≠ second →
    Trace (readPairSet platform divergence config snapshot now first) events (.done reading) →
    Steps WindowFiles.Step files events after →
      after.correlations (correlationFile second.primary second.secondary) =
        files.correlations (correlationFile second.primary second.secondary) ∧
      after.spreadHistories (spreadHistoryFile second.primary) =
        files.spreadHistories (spreadHistoryFile second.primary)

theorem not_straddles_self (pairConfig : PairConfig) : ¬Straddles pairConfig pairConfig := by
  intro straddles
  obtain ⟨between, primary, _⟩ := straddles_iff.mp straddles
  have count := congrArg List.length primary
  rw [List.length_append, List.length_cons] at count
  omega

instance : Std.Symm SeparateFiles where
  symm _ _ separate := ⟨separate.1.symm, separate.2.symm⟩

theorem NamesApart.separate {pairs : List PairConfig} (apart : NamesApart pairs) :
    pairs.Pairwise SeparateFiles := by
  have distinct : pairs.Pairwise fun first second => first.primary ≠ second.primary :=
    List.pairwise_map.mp apart.primaries
  refine (List.Pairwise.imp_of_mem ?_ distinct)
  intro first second inFirst inSecond differ
  refine ⟨?_, mt spreadHistoryFile_inj.mp differ⟩
  intro same
  rcases correlationFile_eq_iff.mp same with rfl | forth | reverse
  · exact differ rfl
  · exact apart.straddle first inFirst second inSecond forth
  · exact apart.straddle second inSecond first inFirst reverse

theorem NamesApart.inside {pairs : List PairConfig} (apart : NamesApart pairs) (directory : String)
    {pairConfig : PairConfig} (member : pairConfig ∈ pairs) {file : String}
    (listed : file ∈ stateFiles pairConfig) : DirectChild directory (join directory file) := by
  obtain ⟨primary, secondary⟩ := apart.slashless pairConfig member
  simp only [stateFiles, List.mem_cons, List.not_mem_nil, or_false] at listed
  rcases listed with rfl | rfl | rfl | rfl | rfl | rfl
  · exact (directChild_bufferDailyFile _ _).mpr primary
  · exact (directChild_bufferDailyFile _ _).mpr secondary
  · exact (directChild_bufferSessionFile _ _).mpr primary
  · exact (directChild_bufferSessionFile _ _).mpr secondary
  · exact (directChild_correlationFile _ _ _).mpr ⟨primary, secondary⟩
  · exact (directChild_spreadHistoryFile _ _).mpr primary

theorem NamesApart.filesApart {pairs : List PairConfig} (apart : NamesApart pairs) :
    FilesApart pairs := by
  constructor
  · intro directory pairConfig member file listed
    exact apart.inside directory member listed
  · intro platform divergence config snapshot now events outcome directory pairConfig member trace
      event occurs file used
    have keeps : (readPairSet platform divergence config snapshot now pairConfig).Yields _ _ :=
      readPairSet_keepsTo pairConfig
    exact apart.inside directory member (keeps.calls trace event occurs file used)
  · exact apart.separate
  · intro platform divergence config snapshot now files after events readings same trace steps
    rw [← same]
    exact (readPairSets_meets (same ▸ apart.separate)).ends_done trace steps
  · intro platform divergence config snapshot now files after events reading first inFirst second
      inSecond differ trace steps
    have separate := apart.separate.forall inFirst inSecond differ
    obtain ⟨window, _, rfl⟩ := (readPairSet_meets.ends_done trace steps).correlation
    exact ⟨if_neg separate.1.symm, if_neg separate.2.symm⟩

theorem FilesApart.namesApart {pairs : List PairConfig} (apart : FilesApart pairs) :
    NamesApart pairs := by
  constructor
  · intro pairConfig member
    have child := apart.inside "" pairConfig member
      (correlationFile pairConfig.primary pairConfig.secondary) (by simp [stateFiles])
    exact (directChild_correlationFile _ _ _).mp child
  · refine List.pairwise_map.mpr (apart.separate.imp ?_)
    exact fun separate same => separate.2 (congrArg spreadHistoryFile same)
  · intro first inFirst second inSecond straddles
    have differ : first ≠ second := by
      rintro rfl
      exact not_straddles_self first straddles
    have separate := apart.separate.forall inFirst inSecond differ
    exact separate.1 (correlationFile_eq_iff.mpr (.inr (.inl straddles)))

/-- The state files of a configuration are kept apart exactly by the names of its pairs. -/
theorem filesApart_iff (config : Config) : FilesApart config.pairs ↔ NamesApart config.pairs :=
  ⟨FilesApart.namesApart, NamesApart.filesApart⟩

/-- Two pair-sets with one primary are accepted, and share its spread history. -/
def sharedPrimary : Config :=
  { Config.default with pairs := [⟨"EURUSD", "GBPUSD"⟩, ⟨"EURUSD", "AUDUSD"⟩] }

theorem sharedPrimary_not_filesApart :
    sharedPrimary.validate = .ok () ∧ ¬FilesApart sharedPrimary.pairs := by
  refine ⟨by decide +kernel, ?_⟩
  intro apart
  exact (List.pairwise_cons.mp apart.separate).1 _ List.mem_cons_self |>.2 rfl

end Oboobot.Daemon
