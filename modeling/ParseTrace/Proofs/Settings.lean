import Mathlib.Data.List.Infix
import ParseTrace.Settings

/-!
# The nearest settings file counts, as a whole or not at all

On the way from the working directory up, the first directory with a settings file ends the search,
whatever the file holds. Of the file that was chosen either every key counts, and the keys that it
leaves out have their defaults, or none does.
-/

namespace ParseTrace

namespace FileTree

variable {α : Type} {files : FileTree α} {place nearer : List String}

theorem mem_upwards_iff : place ∈ files.upwards ↔ place <+: files.workingDirectory := by
  simp only [upwards, List.mem_map, List.mem_range, Nat.lt_succ_iff]
  constructor
  · rintro ⟨steps, _, rfl⟩
    exact List.take_prefix _ _
  · intro above
    refine ⟨files.workingDirectory.length - place.length, Nat.sub_le _ _, ?_⟩
    rw [Nat.sub_sub_self above.length_le]
    exact (List.prefix_iff_eq_take.mp above).symm

/-- Directories on the way up come nearest first. -/
theorem pairwise_upwards (files : FileTree α) :
    files.upwards.Pairwise fun nearer further => further.length < nearer.length := by
  rw [upwards, List.pairwise_map]
  refine List.pairwise_lt_range.imp_of_mem ?_
  intro fewer more _ within less
  rw [List.mem_range] at within
  simp only [List.length_take]
  omega

/-- What is found first on the way up is nearer than all else that could be found. -/
theorem find?_upwards_eq_some_iff {test : List String → Bool} :
    files.upwards.find? test = some place ↔
      place <+: files.workingDirectory ∧ test place = true ∧
        ∀ nearer, nearer <+: files.workingDirectory → place.length < nearer.length →
          test nearer = false := by
  have sorted := files.pairwise_upwards
  simp only [← mem_upwards_iff]
  rw [List.find?_eq_some_iff_append]
  constructor
  · rintro ⟨passes, below, above, whole, notBefore⟩
    rw [whole, List.pairwise_append] at sorted
    refine ⟨by simp [whole], passes, ?_⟩
    intro nearer onTheWay longer
    rw [whole, List.mem_append, List.mem_cons] at onTheWay
    rcases onTheWay with before | rfl | after
    · simpa using notBefore nearer before
    · exact absurd longer (Nat.lt_irrefl _)
    · have shorter := (List.pairwise_cons.mp sorted.2.1).1 nearer after
      exact absurd longer (Nat.lt_asymm shorter)
  · rintro ⟨onTheWay, passes, notNearer⟩
    rcases List.append_of_mem onTheWay with ⟨below, above, whole⟩
    rw [whole, List.pairwise_append] at sorted
    refine ⟨passes, below, above, whole, ?_⟩
    intro nearer before
    have longer := sorted.2.2 nearer before place List.mem_cons_self
    rw [notNearer nearer (by simp [whole, before]) longer]
    rfl

end FileTree

namespace Settings

open Toml (Entries Value)

variable {files : FileTree Bytes} {place : List String} {located : Located Bytes}
  {document : Entries} {settings : Settings}

section Choice

/-- Something lies in a directory under the name of a settings file. -/
def LiesIn (files : FileTree Bytes) (place : List String) : Prop :=
  files.locateNames (place ++ location) ≠ .missing

/-- What counts as the settings file: what lies at the path that is named; if none is named, what
lies in the nearest directory, from the working directory up, in which anything does; otherwise
nothing. -/
inductive Chooses (files : FileTree Bytes) : Option String → Located Bytes → Prop where
  | named (path : String) : Chooses files (some path) (files.locate path)
  | nearest (place : List String) (above : place <+: files.workingDirectory)
      (present : LiesIn files place)
      (notNearer : ∀ nearer, nearer <+: files.workingDirectory →
        place.length < nearer.length → ¬LiesIn files nearer) :
      Chooses files none (files.locateNames (place ++ location))
  | nowhere (absent : ∀ place, place <+: files.workingDirectory → ¬LiesIn files place) :
      Chooses files none .missing

theorem ofLocated_eq_absent_iff : Reading.ofLocated located = .absent ↔ located = .missing := by
  cases located with
  | missing => simp [Reading.ofLocated]
  | directory => simp [Reading.ofLocated]
  | unreadable => simp [Reading.ofLocated]
  | file bytes =>
      rw [Reading.ofLocated]
      cases Utf8.decode? bytes <;> simp

instance : DecidablePred (LiesIn files) := fun _ => inferInstanceAs (Decidable (_ ≠ _))

/-- What lies in the nearest directory in which a settings file does. -/
def nearest (files : FileTree Bytes) : Located Bytes :=
  match files.upwards.find? fun place => LiesIn files place with
  | some place => files.locateNames (place ++ location)
  | none => .missing

theorem chooses_none_iff : Chooses files none located ↔ located = nearest files := by
  rw [nearest]
  cases found : files.upwards.find? fun place => LiesIn files place with
  | none =>
      simp only [List.find?_eq_none, FileTree.mem_upwards_iff, decide_eq_true_eq] at found
      constructor
      · intro chosen
        cases chosen with
        | nearest place above present => exact absurd present (found place above)
        | nowhere => rfl
      · rintro rfl
        exact .nowhere found
  | some place =>
      have first := FileTree.find?_upwards_eq_some_iff.mp found
      simp only [decide_eq_true_eq, decide_eq_false_iff_not] at first
      rcases first with ⟨above, present, notNearer⟩
      constructor
      · intro chosen
        cases chosen with
        | nearest other otherAbove otherPresent notNearerOther =>
            have same : files.upwards.find? (fun place => LiesIn files place) = some other :=
              FileTree.find?_upwards_eq_some_iff.mpr
                ⟨otherAbove, by simpa using otherPresent, by simpa using notNearerOther⟩
            obtain rfl := Option.some.inj (found.symm.trans same)
            rfl
        | nowhere absent => exact absurd present (absent place above)
      · rintro rfl
        exact .nearest place above present notNearer

theorem chooses_some_iff {path : String} :
    Chooses files (some path) located ↔ located = files.locate path := by
  constructor
  · rintro ⟨⟩
    rfl
  · rintro rfl
    exact .named path

theorem existsUnique_chooses (files : FileTree Bytes) (named : Option String) :
    ∃! located, Chooses files named located := by
  cases named with
  | none => exact ⟨_, chooses_none_iff.mpr rfl, fun _ => chooses_none_iff.mp⟩
  | some path => exact ⟨_, chooses_some_iff.mpr rfl, fun _ => chooses_some_iff.mp⟩

theorem find_none_eq (files : FileTree Bytes) :
    find files none = ofReading (.ofLocated (nearest files)) := by
  have test : (fun reading => decide (reading ≠ Reading.absent)) ∘
      (fun place => Reading.ofLocated (files.locateNames (place ++ location))) =
        fun place => decide (LiesIn files place) := by
    funext place
    exact decide_eq_decide.mpr (not_congr ofLocated_eq_absent_iff)
  rw [find, load, Option.map_none, choose, List.find?_map, test, nearest]
  cases files.upwards.find? fun place => LiesIn files place <;> rfl

/-- Only what was chosen has a say. -/
theorem find_of_chooses {named : Option String} (chosen : Chooses files named located) :
    find files named = ofReading (.ofLocated located) := by
  cases named with
  | none =>
      obtain rfl := chooses_none_iff.mp chosen
      exact find_none_eq files
  | some path =>
      obtain rfl := chooses_some_iff.mp chosen
      rfl

end Choice

section Reading

/-- What the keys of a table have as their values: where the table is left out, so are its keys. -/
def KeysOf (names : List String) : Option Value → (String → Option Value) → Prop
  | none, key => key = fun _ => none
  | some value, key => fields? names value = some key

/-- A setting is what the value of its key says, or the default where the key is left out. -/
def Sets {β : Type} (default : β) (read : Value → Option β) : Option Value → β → Prop
  | none, setting => setting = default
  | some value, setting => read value = some setting

/-- A document gives each setting its value. -/
structure Describes (document : Entries) (settings : Settings) : Prop where
  load : ∃ key, KeysOf ["poll_interval_ms", "batch_size"] (document.get? "load") key ∧
    Sets 1000 (count? limit64) (key "poll_interval_ms") settings.pollIntervalMillis ∧
    Sets 1000 (count? limit64) (key "batch_size") settings.batchSize
  storage : ∃ key,
    KeysOf ["pool_size", "busy_timeout_ms", "temp_dir"] (document.get? "storage") key ∧
    Sets 5 (count? limit32) (key "pool_size") settings.poolSize ∧
    Sets 5000 (count? limit64) (key "busy_timeout_ms") settings.busyTimeoutMillis ∧
    Sets none (fun value => some <$> text? value) (key "temp_dir") settings.tempDirectory
  tasks : ∃ key, KeysOf ["workers"] (document.get? "tasks") key ∧
    Sets 4 (count? limit64) (key "workers") settings.workers

theorem fieldOr_eq_some_iff {β : Type} {default setting : β} {read : Value → Option β}
    {value? : Option Value} :
    fieldOr default read value? = some setting ↔ Sets default read value? setting := by
  cases value? with
  | none => rw [fieldOr, Sets, Option.some_inj, eq_comm]
  | some value => rfl

variable {before after : Settings} {table : Option Value}

theorem readTable_load_iff :
    readTable readLoad before table = some after ↔
      ∃ key, KeysOf ["poll_interval_ms", "batch_size"] table key ∧
        ∃ pollIntervalMillis batchSize,
          Sets before.pollIntervalMillis (count? limit64) (key "poll_interval_ms")
            pollIntervalMillis ∧
          Sets before.batchSize (count? limit64) (key "batch_size") batchSize ∧
          { before with pollIntervalMillis, batchSize } = after := by
  cases table with
  | none => simp [readTable, KeysOf, Sets]
  | some value => simp [readTable, readLoad, KeysOf, Option.bind_eq_some_iff, fieldOr_eq_some_iff]

theorem readTable_storage_iff :
    readTable readStorage before table = some after ↔
      ∃ key, KeysOf ["pool_size", "busy_timeout_ms", "temp_dir"] table key ∧
        ∃ poolSize busyTimeoutMillis tempDirectory,
          Sets before.poolSize (count? limit32) (key "pool_size") poolSize ∧
          Sets before.busyTimeoutMillis (count? limit64) (key "busy_timeout_ms")
            busyTimeoutMillis ∧
          Sets before.tempDirectory (fun value => some <$> text? value) (key "temp_dir")
            tempDirectory ∧
          { before with poolSize, busyTimeoutMillis, tempDirectory } = after := by
  cases table with
  | none => simp [readTable, KeysOf, Sets]
  | some value =>
      simp [readTable, readStorage, KeysOf, Option.bind_eq_some_iff, fieldOr_eq_some_iff]

theorem readTable_tasks_iff :
    readTable readTasks before table = some after ↔
      ∃ key, KeysOf ["workers"] table key ∧
        ∃ workers, Sets before.workers (count? limit64) (key "workers") workers ∧
          { before with workers } = after := by
  cases table with
  | none => simp [readTable, KeysOf, Sets]
  | some value => simp [readTable, readTasks, KeysOf, Option.bind_eq_some_iff, fieldOr_eq_some_iff]

/-- A text spells settings exactly if it is a document that gives each of them its value. -/
theorem ofText?_eq_some_iff {text : String} :
    ofText? text = some settings ↔
      ∃ document, Toml.parse? text = some document ∧ Describes document settings := by
  simp only [ofText?, Option.bind_eq_bind, Option.bind_eq_some_iff, readTable_load_iff,
    readTable_storage_iff, readTable_tasks_iff]
  refine exists_congr fun document => and_congr_right fun _ => ?_
  constructor
  · rintro ⟨_, ⟨loadKey, loadKeys, _, _, poll, batch, rfl⟩, _,
      ⟨storageKey, storageKeys, _, _, _, pool, busy, temp, rfl⟩, tasksKey, tasksKeys, _, workers, rfl⟩
    exact ⟨⟨loadKey, loadKeys, poll, batch⟩, ⟨storageKey, storageKeys, pool, busy, temp⟩,
      ⟨tasksKey, tasksKeys, workers⟩⟩
  · rintro ⟨⟨loadKey, loadKeys, poll, batch⟩, ⟨storageKey, storageKeys, pool, busy, temp⟩,
      ⟨tasksKey, tasksKeys, workers⟩⟩
    exact ⟨_, ⟨loadKey, loadKeys, _, _, poll, batch, rfl⟩, _,
      ⟨storageKey, storageKeys, _, _, _, pool, busy, temp, rfl⟩, tasksKey, tasksKeys, _, workers, rfl⟩

end Reading

/-- A file holds settings: its bytes are a text, the text is a document, and the document gives each
setting its value. -/
def Holds (located : Located Bytes) (settings : Settings) : Prop :=
  ∃ bytes text document, located = .file bytes ∧ Utf8.decode? bytes = some text ∧
    Toml.parse? text = some document ∧ Describes document settings

theorem holds_iff : Holds located settings ↔
    ∃ text, Reading.ofLocated located = .contents text ∧ ofText? text = some settings := by
  simp only [ofText?_eq_some_iff]
  constructor
  · rintro ⟨bytes, text, document, rfl, decoded, parsed, describes⟩
    exact ⟨text, by rw [Reading.ofLocated, decoded], document, parsed, describes⟩
  · rintro ⟨text, read, document, parsed, describes⟩
    cases located with
    | missing => cases read
    | directory => cases read
    | unreadable => cases read
    | file bytes =>
        refine ⟨bytes, text, document, rfl, ?_, parsed, describes⟩
        rw [Reading.ofLocated] at read
        cases decoded : Utf8.decode? bytes with
        | none => simp [decoded] at read
        | some other => simpa [decoded] using read

theorem ofReading_of_holds (holds : Holds located settings) :
    ofReading (.ofLocated located) = settings := by
  rcases holds_iff.mp holds with ⟨text, read, spelled⟩
  rw [read, ofReading, spelled, Option.getD_some]

theorem ofReading_of_not_holds (holdsNone : ∀ settings, ¬Holds located settings) :
    ofReading (.ofLocated located) = defaults := by
  cases read : Reading.ofLocated located with
  | absent => rfl
  | unreadable => rfl
  | contents text =>
      cases spelled : ofText? text with
      | none => rw [ofReading, spelled, Option.getD_none]
      | some settings => exact absurd (holds_iff.mpr ⟨text, read, spelled⟩) (holdsNone settings)

/-- There is always exactly one place that counts: the path that is named, else the nearest settings
file from the working directory up. If the file there holds settings they are the ones that hold,
and otherwise, be it missing, unreadable or at fault in any of its keys, all settings are defaults;
whatever else lies on the way has no say. -/
theorem chosen_file_or_defaults (files : FileTree Bytes) (named : Option String) :
    (∃! located, Chooses files named located) ∧
    ∀ located, Chooses files named located →
      (∀ settings, Holds located settings → find files named = settings) ∧
      ((∀ settings, ¬Holds located settings) → find files named = defaults) := by
  refine ⟨existsUnique_chooses files named, ?_⟩
  intro located chosen
  rw [find_of_chooses chosen]
  exact ⟨fun _ => ofReading_of_holds, ofReading_of_not_holds⟩

/-- A settings file at home that is in order, and one further down that is not. -/
def faultyBelowHome (workingDirectory : List String) : FileTree Bytes where
  files :=
    [(["home", ".parsedebug", "config.toml"], Utf8.encode "[tasks]\nworkers = 7\n"),
      (["home", "trace", ".parsedebug", "config.toml"],
        Utf8.encode "[load]\npoll_interval_ms = 250\nbatch_size = true\n")]
  directories := []
  workingDirectory := workingDirectory

theorem faultyBelowHome_leaves_defaults :
    find (faultyBelowHome ["home", "trace", "runs"]) none = defaults ∧
      find (faultyBelowHome ["home", "runs"]) none = { defaults with workers := 7 } ∧
      find (faultyBelowHome ["home", "runs"]) (some "") = defaults := by
  have faulty : Chooses (faultyBelowHome ["home", "trace", "runs"]) none
      (.file (Utf8.encode "[load]\npoll_interval_ms = 250\nbatch_size = true\n")) :=
    chooses_none_iff.mpr (by decide +kernel)
  have inOrder : Chooses (faultyBelowHome ["home", "runs"]) none
      (.file (Utf8.encode "[tasks]\nworkers = 7\n")) :=
    chooses_none_iff.mpr (by decide +kernel)
  refine ⟨?_, ?_, ?_⟩
  · apply ((chosen_file_or_defaults _ _).2 _ faulty).2
    intro settings holds
    rcases holds_iff.mp holds with ⟨text, read, spelled⟩
    obtain rfl : "[load]\npoll_interval_ms = 250\nbatch_size = true\n" = text := by
      rw [Reading.ofLocated, Utf8.decode?_encode] at read
      exact Reading.contents.inj read
    have refused : ofText? "[load]\npoll_interval_ms = 250\nbatch_size = true\n" = none := by
      decide +kernel
    exact absurd (refused.symm.trans spelled) nofun
  · apply ((chosen_file_or_defaults _ _).2 _ inOrder).1
    exact holds_iff.mpr ⟨"[tasks]\nworkers = 7\n", by decide +kernel, by decide +kernel⟩
  · apply ((chosen_file_or_defaults _ _).2 _ (.named "")).2
    rintro settings ⟨bytes, _, _, isFile, _⟩
    cases isFile

end Settings

end ParseTrace
