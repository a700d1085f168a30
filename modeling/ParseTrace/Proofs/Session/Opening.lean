import ParseTrace.Proofs.Capture.RoundTrip
import ParseTrace.Session.Basic

/-!
# How opening a session ends

A capture file is read before anything is loaded, and whatever is wrong with what it holds is an
error. What it announces can still make opening crash. The archive announces how many bytes the
input has, and room for them is asked for before the first is read. The header announces two counts
of 64 bits, and they are added without a look at what the capture holds. Neither number is checked,
and opening crashes for no other reason.
-/

namespace ParseTrace

namespace Capture

variable {capture : Capture} {text : String} {cause : Crash}

theorem readInput_of_fits (fits : capture.input.announced ≤ maxBytes) :
    capture.readInput = .ofExcept (capture.inputText.mapError .ofCapture) := by
  rw [readInput, if_neg (Nat.not_lt.mpr fits)]

theorem readInput_of_noRoom (tooMuch : maxBytes < capture.input.announced) :
    capture.readInput = .crash .capacity := by
  rw [readInput, if_pos tooMuch]

theorem readInput_of_text (fits : capture.input.announced ≤ maxBytes)
    (isText : capture.inputText = .ok text) : capture.readInput = .ok text := by
  rw [readInput_of_fits fits, isText]
  rfl

end Capture

namespace Session

variable {files : FileTree CaptureFile} {settings : Settings} {path : String} {file : CaptureFile}
  {capture : Capture} {store : Store} {cause : Crash}

theorem totalRecords?_eq_none_iff {header : Header} :
    header.totalRecords? = none ↔ countLimit ≤ header.ruleCount + header.nodeCount := by
  rw [Header.totalRecords?, addCounts?]
  split <;> simp <;> omega

/-- Counts that are added up, where only their sum is of interest. -/
theorem ofChecked_totalRecords?_bind {α : Type} {header : Header} {result : Outcome α} :
    (Outcome.ofChecked header.totalRecords? >>= fun _ => result) =
      if countLimit ≤ header.ruleCount + header.nodeCount then .crash .overflow else result := by
  split
  next tooMany => rw [totalRecords?_eq_none_iff.mpr tooMany, Outcome.ofChecked, Outcome.crash_bind]
  next few =>
    cases total : header.totalRecords? with
    | none => exact absurd (totalRecords?_eq_none_iff.mp total) few
    | some sum => rw [Outcome.ofChecked, Outcome.ok_bind]

/-- A file whose header cannot be read is a corrupt trace. -/
theorem openFile_of_unreadable {fault : CaptureError} (located : files.locate path = .file file)
    (unreadable : Capture.open? file = .error fault) :
    openFile files settings path = .error (.ofCapture fault) := by
  simp only [openFile, located, unreadable, Except.mapError, Outcome.ofExcept, Outcome.error_bind]

/-- Opening ends where the input cannot be read. -/
theorem openFile_of_inputNotRead {fault : TraceError} (located : files.locate path = .file file)
    (opened : Capture.open? file = .ok capture) (notRead : capture.readInput = .error fault) :
    openFile files settings path = .error fault := by
  simp only [openFile, located, opened, notRead, Except.mapError, Outcome.ofExcept,
    Outcome.ok_bind, Outcome.error_bind]

/-- A capture whose input breaks off or is no text is a corrupt trace. -/
theorem openFile_of_inputNotText {fault : CaptureError} (located : files.locate path = .file file)
    (opened : Capture.open? file = .ok capture)
    (fits : capture.input.announced ≤ Capture.maxBytes)
    (noText : capture.inputText = .error fault) :
    openFile files settings path = .error (.ofCapture fault) := by
  refine openFile_of_inputNotRead located opened ?_
  rw [Capture.readInput_of_fits fits, noText]
  rfl

/-- Opening crashes where too much room is asked for. -/
theorem openFile_of_noRoomForInput (located : files.locate path = .file file)
    (opened : Capture.open? file = .ok capture)
    (tooMuch : Capture.maxBytes < capture.input.announced) :
    openFile files settings path = .crash .capacity := by
  simp only [openFile, located, opened, Capture.readInput_of_noRoom tooMuch, Except.mapError,
    Outcome.ofExcept, Outcome.ok_bind, Outcome.crash_bind]

theorem openFile_of_noRoom {fault : TraceError} {text : String}
    (located : files.locate path = .file file)
    (opened : Capture.open? file = .ok capture) (isText : capture.readInput = .ok text)
    (noRoom : Store.createIn files settings.tempDirectory path capture.header = .error fault) :
    openFile files settings path = .error fault := by
  simp only [openFile, located, opened, isText, noRoom, Except.mapError, Outcome.ofExcept,
    Outcome.ok_bind, Outcome.error_bind]

/-- Once the capture is read and there is room for a store, all depends on the announced counts. -/
theorem openFile_of_readable {text : String} (located : files.locate path = .file file)
    (opened : Capture.open? file = .ok capture) (isText : capture.readInput = .ok text)
    (created : Store.createIn files settings.tempDirectory path capture.header = .ok store) :
    openFile files settings path =
      if countLimit ≤ capture.header.ruleCount + capture.header.nodeCount then .crash .overflow
      else .ok (start path text capture store settings.batchSize) := by
  simp only [openFile, located, opened, isText, created, Except.mapError, Outcome.ofExcept,
    Outcome.ok_bind, ofChecked_totalRecords?_bind]
  rfl

/-- The header of a capture can announce any counts, whatever the capture holds. -/
theorem openFile_of_header {header : Header} {rules nodes : Contents} {text : String}
    (writable : Capture.WritableHeader header)
    (fits : (Utf8.encode text).length ≤ Capture.maxBytes)
    (located : files.locate path = .file (.archive
      { info := some (Draft.entry [Capture.headerFields header]), rules := some rules,
        nodes := some nodes, input := some (.ofText text) }))
    (created : Store.createIn files settings.tempDirectory path header = .ok store) :
    openFile files settings path = .crash .overflow ↔
      countLimit ≤ header.ruleCount + header.nodeCount := by
  have opened := Capture.open?_of_openHeader (Capture.openHeader_entry writable) rules nodes
    (.ofText text)
  rw [openFile_of_readable located opened (Capture.readInput_of_ofText rfl fits) created]
  split
  next tooMany => simp [tooMany]
  next few => simp [few]

/-- Opening fails with an error, or the input announces too much, or the capture is readable and
there is room for a store. -/
theorem openFile_cases (files : FileTree CaptureFile) (settings : Settings) (path : String) :
    (∃ fault, openFile files settings path = .error fault) ∨
      ∃ file capture, files.locate path = .file file ∧ Capture.open? file = .ok capture ∧
        (Capture.maxBytes < capture.input.announced ∨
          capture.input.announced ≤ Capture.maxBytes ∧ ∃ text store,
            capture.inputText = .ok text ∧
            Store.createIn files settings.tempDirectory path capture.header = .ok store) := by
  cases located : files.locate path with
  | missing => exact Or.inl ⟨.fileNotFound path, by simp [openFile, located]⟩
  | directory => exact Or.inl ⟨.notReadable path, by simp [openFile, located]⟩
  | unreadable => exact Or.inl ⟨.notReadable path, by simp [openFile, located]⟩
  | file file =>
      cases opened : Capture.open? file with
      | error fault => exact Or.inl ⟨_, openFile_of_unreadable located opened⟩
      | ok capture =>
          rcases Nat.lt_or_ge Capture.maxBytes capture.input.announced with tooMuch | fits
          · exact Or.inr ⟨file, capture, rfl, opened, Or.inl tooMuch⟩
          cases isText : capture.inputText with
          | error fault => exact Or.inl ⟨_, openFile_of_inputNotText located opened fits isText⟩
          | ok text =>
              have read := Capture.readInput_of_text fits isText
              cases created :
                  Store.createIn files settings.tempDirectory path capture.header with
              | error fault => exact Or.inl ⟨_, openFile_of_noRoom located opened read created⟩
              | ok store =>
                  exact Or.inr
                    ⟨file, capture, rfl, opened, Or.inr ⟨fits, text, store, isText, created⟩⟩

/-- Opening crashes exactly if a readable capture announces an input that there cannot be room for,
or counts whose sum is none. -/
theorem openFile_eq_crash_iff :
    openFile files settings path = .crash cause ↔
      ∃ file capture, files.locate path = .file file ∧ Capture.open? file = .ok capture ∧
        (cause = .capacity ∧ Capture.maxBytes < capture.input.announced ∨
          cause = .overflow ∧ capture.input.announced ≤ Capture.maxBytes ∧ ∃ text store,
            capture.inputText = .ok text ∧
            Store.createIn files settings.tempDirectory path capture.header = .ok store ∧
            countLimit ≤ capture.header.ruleCount + capture.header.nodeCount) := by
  constructor
  · intro crashed
    rcases openFile_cases files settings path with
      ⟨fault, failed⟩ | ⟨file, capture, located, opened, tooMuch | ⟨fits, text, store, isText, created⟩⟩
    · rw [failed] at crashed
      cases crashed
    · rw [openFile_of_noRoomForInput located opened tooMuch] at crashed
      cases crashed
      exact ⟨file, capture, located, opened, Or.inl ⟨rfl, tooMuch⟩⟩
    · have read := Capture.readInput_of_text fits isText
      rw [openFile_of_readable located opened read created] at crashed
      split at crashed
      next tooMany =>
        cases crashed
        exact ⟨file, capture, located, opened,
          Or.inr ⟨rfl, fits, text, store, isText, created, tooMany⟩⟩
      next => cases crashed
  · rintro ⟨file, capture, located, opened,
      ⟨rfl, tooMuch⟩ | ⟨rfl, fits, text, store, isText, created, tooMany⟩⟩
    · exact openFile_of_noRoomForInput located opened tooMuch
    · have read := Capture.readInput_of_text fits isText
      rw [openFile_of_readable located opened read created, if_pos tooMany]

/-- Wherever a store is kept, it is new. -/
theorem createIn_eq_ok {directory : Option String} {label : String} {header : Header}
    (created : Store.createIn files directory label header = .ok store) :
    store = Store.create label header := by
  cases directory with
  | none => exact (Except.ok.inj created).symm
  | some directory =>
      simp only [Store.createIn] at created
      split at created
      · exact (Except.ok.inj created).symm
      · cases created

/-- A session that was opened has just started. -/
theorem exists_start_of_openFile {session : Session}
    (opened : openFile files settings path = .ok session) :
    ∃ file capture text, files.locate path = .file file ∧ Capture.open? file = .ok capture ∧
      session = start path text capture (.create path capture.header) settings.batchSize := by
  rcases openFile_cases files settings path with
    ⟨fault, failed⟩ | ⟨file, capture, located, readable,
      tooMuch | ⟨fits, text, store, isText, created⟩⟩
  · rw [failed] at opened
    cases opened
  · rw [openFile_of_noRoomForInput located readable tooMuch] at opened
    cases opened
  · have read := Capture.readInput_of_text fits isText
    rw [openFile_of_readable located readable read created] at opened
    obtain rfl := createIn_eq_ok created
    split at opened
    next => cases opened
    next =>
      cases opened
      exact ⟨file, capture, text, located, readable, rfl⟩

/-- The store of an opened session is a new one, into which the capture was loaded. -/
theorem exists_of_openFile {session : Session}
    (opened : openFile files settings path = .ok session) :
    ∃ file capture, files.locate path = .file file ∧ Capture.open? file = .ok capture ∧
      session.store =
        ((Store.create path capture.header).load capture settings.batchSize).2 ∧
      session.path = path ∧ session.unwatched = false ∧ session.closed = false := by
  rcases exists_start_of_openFile opened with ⟨file, capture, text, located, readable, rfl⟩
  exact ⟨file, capture, located, readable, rfl, rfl, rfl, rfl⟩

/-- How opening ends. A bad capture is a corrupt trace. Opening crashes only for what is announced:
an input that there cannot be room for, or counts whose sum is none. -/
theorem opening_outcome (files : FileTree CaptureFile) (settings : Settings) (path : String) :
    (∀ file fault, files.locate path = .file file →
      (Capture.open? file = .error fault ∨
        ∃ capture, Capture.open? file = .ok capture ∧
          capture.input.announced ≤ Capture.maxBytes ∧ capture.inputText = .error fault) →
      openFile files settings path = .error (.ofCapture fault)) ∧
    ∀ cause, openFile files settings path = .crash cause ↔
      ∃ file capture, files.locate path = .file file ∧ Capture.open? file = .ok capture ∧
        (cause = .capacity ∧ Capture.maxBytes < capture.input.announced ∨
          cause = .overflow ∧ capture.input.announced ≤ Capture.maxBytes ∧ ∃ text store,
            capture.inputText = .ok text ∧
            Store.createIn files settings.tempDirectory path capture.header = .ok store ∧
            countLimit ≤ capture.header.ruleCount + capture.header.nodeCount) := by
  refine ⟨?_, fun _ => openFile_eq_crash_iff⟩
  rintro file fault located (unreadable | ⟨capture, opened, fits, noText⟩)
  · exact openFile_of_unreadable located unreadable
  · exact openFile_of_inputNotText located opened fits noText

/-- A header that announces one record more than can be counted. -/
def overflowingHeader : Header := ⟨0, 18446744073709551615, 1, 1⟩

/-- An archive with this header and one record of each sort. -/
def overflowingArchive : Archive where
  info := some (Draft.entry [Capture.headerFields overflowingHeader])
  rules := some (.ofText "0;CharMatcher;TERMINAL;Letter\n")
  nodes := some (.ofText "-1;0;0;1;0;0;1;5\n")
  input := some (.ofText "ab")

/-- The same archive with the counts that it should announce, but announcing an input that there
cannot be room for. -/
def overannouncedArchive : Archive where
  info := some (Draft.entry [Capture.headerFields ⟨0, 1, 1, 1⟩])
  rules := overflowingArchive.rules
  nodes := overflowingArchive.nodes
  input := some { Contents.ofText "ab" with announced := 18446744073709551615 }

theorem splitOn_t : "t".splitOn "/" = ["t"] := by
  rw [String.splitOn, if_neg (by decide), String.splitOnAux, if_neg (by decide),
    if_neg (by decide), String.splitOnAux, if_pos (by decide)]
  decide

/-- One archive in the working directory, which is the root. -/
def singleFile (archive : Archive) : FileTree CaptureFile where
  files := [(["t"], .archive archive)]
  directories := []
  workingDirectory := []

theorem locate_singleFile (archive : Archive) :
    (singleFile archive).locate "t" = .file (.archive archive) := by
  rw [FileTree.locate, if_neg (by decide), if_neg (by decide +kernel), splitOn_t]
  simp [singleFile, FileTree.follow, FileTree.lookup, FileTree.step]

/-- A session on a single archive, if its header can be read and announces few enough records, and
the input is not too long. -/
theorem exists_of_singleFile {header : String} {parsed : Header}
    (readable : Capture.openHeader (.ofText header) = .ok parsed)
    (few : ¬countLimit ≤ parsed.ruleCount + parsed.nodeCount) (rules nodes text : String)
    (fits : (Utf8.encode text).length ≤ Capture.maxBytes) :
    ∃ session,
      openFile
        (singleFile
          { info := some (.ofText header), rules := some (.ofText rules)
            nodes := some (.ofText nodes), input := some (.ofText text) })
        .defaults "t" = .ok session ∧
      session.input = .ofString text ∧
      session.store =
        ((Store.create "t" parsed).load
          ⟨parsed, .ofText rules, .ofText nodes, .ofText text⟩
          Settings.defaults.batchSize).2 := by
  have opened := Capture.open?_of_openHeader readable (.ofText rules) (.ofText nodes)
    (.ofText text)
  have read : Capture.readInput ⟨parsed, .ofText rules, .ofText nodes, .ofText text⟩ = .ok text :=
    Capture.readInput_of_ofText rfl fits
  rw [openFile_of_readable (locate_singleFile _) opened read rfl, if_neg few]
  exact ⟨_, rfl, rfl, rfl⟩

/-- Either announcement makes opening crash. -/
theorem openFile_crashes :
    openFile (singleFile overflowingArchive) .defaults "t" = .crash .overflow ∧
      openFile (singleFile overannouncedArchive) .defaults "t" = .crash .capacity := by
  constructor
  · have writable : Capture.WritableHeader overflowingHeader :=
      ⟨by decide, by decide, by decide, by decide⟩
    exact (openFile_of_header writable (by decide) (locate_singleFile _) rfl).mpr (by decide)
  · have writable : Capture.WritableHeader ⟨0, 1, 1, 1⟩ :=
      ⟨by decide, by decide, by decide, by decide⟩
    have opened := Capture.open?_of_openHeader (Capture.openHeader_entry writable)
    exact openFile_of_noRoomForInput (locate_singleFile _) (opened _ _ _) (by decide)

end Session

end ParseTrace
