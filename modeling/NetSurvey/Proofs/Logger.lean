import NetSurvey.Logger
import NetSurvey.Proofs.Activity

/-!
# Handlers are attached once

A logger is configured any number of times. Each time a level and a path are given, and the files
are found in some state, so that a file which cannot be opened once may well be opened the next time
(`Setup`). `Setup.Configures` says all that one configuration can do.

Main statement: `handlers_attached_once`. The handlers of a logger that starts without any are those
of the first configuration that does not fail. Until then there are none, from then on they stay as
they are, and a configuration that fails changes nothing about them.
-/

namespace NetSurvey.Logger

open Text

variable {φ : Type} (openFile : φ → Text → Except OpenError φ)

/-! ### What is asked for -/

/-- What a configuration is given, and the files as it finds them. -/
structure Setup (φ : Type) where
  level : Datum := defaultLevel
  path : Datum := .null
  files : φ

/-- An integer, a truth value and the name of a level stand for a level. -/
def IsLevel (d : Datum) : Prop :=
  (∃ n, d = .int n) ∨ (∃ b, d = .bool b) ∨ ∃ name n, (name, n) ∈ levelNames ∧ d = .text name

theorem isLevel_iff (d : Datum) : IsLevel d ↔ ∃ level, levelOf d = .ok level := by
  constructor
  · rintro (⟨n, rfl⟩ | ⟨b, rfl⟩ | ⟨name, n, hmem, rfl⟩)
    · exact ⟨_, rfl⟩
    · exact ⟨_, rfl⟩
    · cases hlookup : levelNames.lookup name with
      | none => simpa using List.lookup_eq_none_iff.mp hlookup _ hmem
      | some level => exact ⟨.int level, by simp only [levelOf, hlookup]⟩
  · rintro ⟨level, h⟩
    cases d with
    | null => simp [levelOf] at h
    | list items => simp [levelOf] at h
    | record fields => simp [levelOf] at h
    | bool b => exact .inr (.inl ⟨b, rfl⟩)
    | number n =>
      cases n with
      | int n => exact .inl ⟨n, rfl⟩
      | float x => simp [levelOf] at h
    | text name =>
      cases hlookup : levelNames.lookup name with
      | none => simp [levelOf, hlookup] at h
      | some n =>
        obtain ⟨front, back, heq, -⟩ := List.lookup_eq_some_iff.mp hlookup
        exact .inr (.inr ⟨name, n, by simp [heq], rfl⟩)

namespace Setup

variable (s : Setup φ)

/-- A file is named by a text that is not empty. -/
def Names (path : Text) : Prop :=
  s.path = .text path ∧ path ≠ []

/-- All that is asked for can be opened, and `files` are the files then. -/
inductive Opens : φ → Prop
  | console (hpath : s.path.isPresent = false) : Opens s.files
  | file {path : Text} {files : φ} (hpath : s.Names path)
    (hopen : openFile s.files path = .ok files) : Opens files

/-- The handlers that are asked for: one for the console and, exactly if a file is named, one for
the file behind it. All of them lay entries out in the same format. -/
inductive Describes : List Handler → Prop
  | console (hpath : ∀ path, ¬s.Names path) : Describes [⟨.console, some entryFormat⟩]
  | file {path : Text} (hpath : s.Names path) :
    Describes [⟨.console, some entryFormat⟩, ⟨.file path, some entryFormat⟩]

variable {s}

theorem Names.isPresent {path : Text} (h : s.Names path) : s.path.isPresent = true := by
  rw [h.1, Datum.isPresent, Bool.not_eq_true', List.isEmpty_eq_false_iff]
  exact h.2

theorem Names.unique {path other : Text} (h : s.Names path) (hother : s.Names other) :
    other = path := by
  have heq := hother.1.symm.trans h.1
  injection heq

theorem Describes.ne_nil {handlers : List Handler} (h : s.Describes handlers) :
    handlers ≠ [] := by
  cases h <;> exact nofun

/-- A path counts as absent, names a file, or is no path at all. -/
theorem pathOf_cases (s : Setup φ) :
    (s.path.isPresent = false ∧ pathOf s.path = .ok none) ∨
    (∃ path, s.Names path ∧ pathOf s.path = .ok (some path)) ∨
    (s.path.isPresent = true ∧ (∀ path, s.path ≠ .text path) ∧
      pathOf s.path = .error .noPath) := by
  by_cases htext : ∃ path, s.path = .text path
  · obtain ⟨path, hpath⟩ := htext
    by_cases hempty : path = []
    · exact .inl (by simp [hpath, hempty, Datum.isPresent, pathOf])
    · exact .inr (.inl ⟨path, ⟨hpath, hempty⟩, by simp [hpath, hempty, pathOf]⟩)
  · have hno : ∀ path, s.path ≠ .text path := fun path hpath => htext ⟨path, hpath⟩
    have hpathOf : pathOf s.path =
        if s.path.isPresent then .error .noPath else .ok none := by
      rw [pathOf]
      exact hno
    rw [hpathOf]
    by_cases hpresent : s.path.isPresent = true
    · exact .inr (.inr ⟨hpresent, hno, if_pos hpresent⟩)
    · exact .inl ⟨by simpa using hpresent, if_neg hpresent⟩

end Setup

/-! ### One configuration -/

/-- Handlers are attached in their order behind those that are there, each with the format. -/
theorem foldl_attach (made : List Handler) (l : Logger) :
    made.foldl attach l =
      { l with handlers := l.handlers ++ made.map ({ · with format := some entryFormat }) } := by
  induction made generalizing l with
  | nil => simp
  | cons h made ih => simp [ih, attach]

namespace Setup

variable {l : Logger} {s : Setup φ}

/-- The handlers are made, all of them or none. -/
theorem openHandlers_cases (s : Setup φ) :
    (∃ e, openHandlers openFile s.files s.path = .error e ∧ ∀ files, ¬s.Opens openFile files) ∨
    ∃ files made, openHandlers openFile s.files s.path = .ok (files, made) ∧
      s.Opens openFile files ∧
      s.Describes (made.map ({ · with format := some entryFormat })) := by
  obtain ⟨habsent, heq⟩ | ⟨path, hpath, heq⟩ | ⟨hpresent, hno, heq⟩ := s.pathOf_cases
  · have hnames : ∀ path, ¬s.Names path := fun path hpath => by simp [hpath.isPresent] at habsent
    refine .inr ⟨s.files, [{ sink := .console }], ?_, .console habsent, .console hnames⟩
    simp only [openHandlers, heq]
    rfl
  · cases hopen : openFile s.files path with
    | ok files =>
      refine .inr ⟨files, [{ sink := .console }, { sink := .file path }], ?_, .file hpath hopen,
        .file hpath⟩
      simp only [openHandlers, heq, ok_bind, hopen]
      rfl
    | error e =>
      refine .inl ⟨.file e, ?_, ?_⟩
      · simp only [openHandlers, heq, ok_bind, hopen]
        rfl
      · rintro files (habsent | ⟨hother, hfile⟩)
        · simp [hpath.isPresent] at habsent
        · rw [hpath.unique hother, hopen] at hfile
          cases hfile
  · refine .inl ⟨.noPath, ?_, ?_⟩
    · simp only [openHandlers, heq]
      rfl
    · rintro files (habsent | ⟨hother, -⟩)
      · simp [hpresent] at habsent
      · exact hno _ hother.1

/-- Configures a logger as it is asked for. -/
def configure (s : Setup φ) (l : Logger) : Except ConfigureError φ × Logger :=
  l.configure openFile s.files s.level s.path

/-- A configuration that comes to an error. -/
def Fails (s : Setup φ) (l : Logger) : Prop :=
  ∃ e, (s.configure openFile l).1 = .error e

/-- All that a configuration can do. The level is set before anything is opened, and nothing is
opened for a logger that has handlers. -/
inductive Configures (s : Setup φ) (l : Logger) : Except ConfigureError φ × Logger → Prop
  | noLevel {e : ConfigureError} (hlevel : levelOf s.level = .error e) :
    Configures s l (.error e, l)
  | kept {level : Datum} (hlevel : levelOf s.level = .ok level) (hl : l.handlers ≠ []) :
    Configures s l (.ok s.files, { l with level })
  | notOpened {level : Datum} {e : ConfigureError} (hlevel : levelOf s.level = .ok level)
    (hl : l.handlers = []) (hopen : ∀ files, ¬s.Opens openFile files) :
    Configures s l (.error e, { l with level })
  | attached {level : Datum} {files : φ} {handlers : List Handler}
    (hlevel : levelOf s.level = .ok level) (hl : l.handlers = []) (hopen : s.Opens openFile files)
    (hhandlers : s.Describes handlers) :
    Configures s l (.ok files, { level, handlers })

theorem configures (s : Setup φ) (l : Logger) :
    s.Configures openFile l (s.configure openFile l) := by
  rw [configure, Logger.configure]
  cases hlevel : levelOf s.level with
  | error e => exact .noLevel hlevel
  | ok level =>
    by_cases hl : l.handlers = []
    · -- what is asked for is opened as a whole before any of it is attached
      simp only [hl, List.isEmpty_nil, if_true]
      obtain ⟨e, heq, hopen⟩ | ⟨files, made, heq, hopen, hmade⟩ := s.openHandlers_cases openFile
      · simp only [heq]
        exact hl ▸ .notOpened hlevel hl hopen
      · simp only [heq, foldl_attach, List.nil_append]
        exact .attached hlevel hl hopen hmade
    · simp only [List.isEmpty_iff, hl, if_false]
      exact .kept hlevel hl

namespace Configures

variable {openFile} {l : Logger} {s : Setup φ} {result : Except ConfigureError φ × Logger}

/-- It fails without a level, and where handlers are to be attached that cannot all be opened. -/
theorem fails_iff (h : s.Configures openFile l result) :
    (∃ e, result.1 = .error e) ↔
      ¬IsLevel s.level ∨ l.handlers = [] ∧ ∀ files, ¬s.Opens openFile files := by
  rw [isLevel_iff]
  cases h with
  | noLevel hlevel => simp [hlevel]
  | kept hlevel hl => simp [hlevel, hl]
  | notOpened hlevel hl hopen => simp [hlevel, hl, hopen]
  | attached hlevel hl hopen =>
    have hopens : ∃ files, s.Opens openFile files := ⟨_, hopen⟩
    simp [hlevel, hl, hopens]

theorem handlers_eq (h : s.Configures openFile l result)
    (hkept : (∃ e, result.1 = .error e) ∨ l.handlers ≠ []) :
    result.2.handlers = l.handlers := by
  cases h with
  | noLevel => rfl
  | kept => rfl
  | notOpened => rfl
  | attached hlevel hl => simp [hl] at hkept

theorem describes (h : s.Configures openFile l result) (hok : ¬∃ e, result.1 = .error e)
    (hl : l.handlers = []) : s.Describes result.2.handlers := by
  cases h with
  | noLevel => simp at hok
  | kept hlevel hne => exact absurd hl hne
  | notOpened => simp at hok
  | attached hlevel _ hopen hhandlers => exact hhandlers

end Configures

variable {openFile} {l : Logger} {s : Setup φ}

/-- A configuration that fails attaches nothing, and neither does one of a logger with handlers. -/
theorem handlers_configure_eq (h : s.Fails openFile l ∨ l.handlers ≠ []) :
    (s.configure openFile l).2.handlers = l.handlers :=
  (s.configures openFile l).handlers_eq h

/-- A configuration that does not fail attaches what is asked for, if there are no handlers. -/
theorem describes_configure (h : ¬s.Fails openFile l) (hl : l.handlers = []) :
    s.Describes (s.configure openFile l).2.handlers :=
  (s.configures openFile l).describes h hl

theorem handlers_configure_ne_nil (h : ¬s.Fails openFile l) :
    (s.configure openFile l).2.handlers ≠ [] := by
  by_cases hl : l.handlers = []
  · exact (describes_configure h hl).ne_nil
  · rwa [handlers_configure_eq (.inr hl)]

end Setup

/-! ### One configuration after the other -/

/-- The logger after some configurations. -/
def after (l : Logger) (setups : List (Setup φ)) : Logger :=
  setups.foldl (fun l s => (s.configure openFile l).2) l

/-- Each of some configurations, one after the other, fails. -/
def AllFail : Logger → List (Setup φ) → Prop
  | _, [] => True
  | l, s :: setups => s.Fails openFile l ∧ AllFail (s.configure openFile l).2 setups

variable {openFile} {l : Logger}

@[simp]
theorem after_nil : after openFile l [] = l := rfl

@[simp]
theorem after_cons (s : Setup φ) (setups : List (Setup φ)) :
    after openFile l (s :: setups) = after openFile (s.configure openFile l).2 setups := rfl

theorem after_append (setups later : List (Setup φ)) :
    after openFile l (setups ++ later) = after openFile (after openFile l setups) later :=
  List.foldl_append

/-- Handlers that are there stay as they are. -/
theorem handlers_after_eq (hl : l.handlers ≠ []) (setups : List (Setup φ)) :
    (after openFile l setups).handlers = l.handlers := by
  induction setups generalizing l with
  | nil => rfl
  | cons s setups ih =>
    have hstep : (s.configure openFile l).2.handlers = l.handlers :=
      Setup.handlers_configure_eq (.inr hl)
    rw [after_cons, ih (hstep ▸ hl), hstep]

theorem handlers_after_of_allFail {setups : List (Setup φ)} (h : AllFail openFile l setups) :
    (after openFile l setups).handlers = l.handlers := by
  induction setups generalizing l with
  | nil => rfl
  | cons s setups ih => rw [after_cons, ih h.2, Setup.handlers_configure_eq (.inl h.1)]

/-- There is a first configuration that does not fail, unless all of them fail. -/
theorem allFail_or_exists_first (l : Logger) (setups : List (Setup φ)) :
    AllFail openFile l setups ∨
      ∃ failed s later, setups = failed ++ s :: later ∧ AllFail openFile l failed ∧
        ¬s.Fails openFile (after openFile l failed) := by
  induction setups generalizing l with
  | nil => exact .inl trivial
  | cons s setups ih =>
    by_cases hs : s.Fails openFile l
    · obtain hall | ⟨failed, first, later, heq, hfailed, hfirst⟩ := ih (s.configure openFile l).2
      · exact .inl ⟨hs, hall⟩
      · exact .inr ⟨s :: failed, first, later, by rw [heq, List.cons_append], ⟨hs, hfailed⟩, hfirst⟩
    · exact .inr ⟨[], s, setups, rfl, trivial, hs⟩

/-- The handlers of the first configuration that does not fail are attached, and stay. -/
theorem describes_after {failed later : List (Setup φ)} {s : Setup φ} (hl : l.handlers = [])
    (hfailed : AllFail openFile l failed) (hs : ¬s.Fails openFile (after openFile l failed)) :
    s.Describes (after openFile l (failed ++ s :: later)).handlers := by
  have hnone : (after openFile l failed).handlers = [] :=
    (handlers_after_of_allFail hfailed).trans hl
  have hdescribes := Setup.describes_configure hs hnone
  rw [after_append, after_cons, handlers_after_eq hdescribes.ne_nil]
  exact hdescribes

/-- **Handlers are attached once, and all together.** A logger without handlers is configured some
times, with files that may change in between. If each configuration failed, it still has none.
Otherwise it has those that the first one asked for which did not fail: one for the console, one for
the file behind it exactly if a file was named, and each with the format of entries. After a
configuration that did not fail no later one changes the handlers, and one that fails never does. A
configuration fails exactly if it is given no level, or if the logger has no handlers so far and
what is asked for cannot be opened. -/
theorem handlers_attached_once (openFile : φ → Text → Except OpenError φ) (hl : l.handlers = [])
    (setups : List (Setup φ)) :
    (AllFail openFile l setups ∧ (after openFile l setups).handlers = [] ∨
      ∃ failed s later, setups = failed ++ s :: later ∧ AllFail openFile l failed ∧
        ¬s.Fails openFile (after openFile l failed) ∧
        s.Describes (after openFile l setups).handlers) ∧
    (∀ s later, ¬Setup.Fails openFile s (after openFile l setups) →
      (after openFile l (setups ++ s :: later)).handlers =
        (after openFile l (setups ++ [s])).handlers) ∧
    (∀ s, Setup.Fails openFile s (after openFile l setups) →
      (after openFile l (setups ++ [s])).handlers = (after openFile l setups).handlers) ∧
    (∀ s, Setup.Fails openFile s (after openFile l setups) ↔
      ¬IsLevel s.level ∨
        (after openFile l setups).handlers = [] ∧ ∀ files, ¬s.Opens openFile files) := by
  refine ⟨?_, ?_, ?_, fun s => (s.configures openFile _).fails_iff⟩
  · obtain hall | ⟨failed, s, later, rfl, hfailed, hs⟩ := allFail_or_exists_first l setups
    · exact .inl ⟨hall, (handlers_after_of_allFail hall).trans hl⟩
    · exact .inr ⟨failed, s, later, rfl, hfailed, hs, describes_after hl hfailed hs⟩
  · intro s later hs
    rw [after_append, after_append, after_cons, after_cons, after_nil]
    exact handlers_after_eq (Setup.handlers_configure_ne_nil hs) later
  · intro s hs
    rw [after_append, after_cons, after_nil]
    exact Setup.handlers_configure_eq (.inl hs)

/-- A file in no directory and a level without a name are refused. Then the logger gets its
handlers, and another file is not even opened. -/
theorem handlers_attached_once_retried :
    let refused : List (Setup (List Text)) :=
      [{ path := .text "a/b", files := [] },
        { level := .text "LOUD", path := .text "z.log", files := [] }]
    let accepted : Setup (List Text) := { path := .text "z.log", files := [] }
    let last : Setup (List Text) := { path := .text "a/b", files := ["z.log"] }
    ({} : Logger).handlers = [] ∧
      AllFail File.create {} refused ∧
      ¬accepted.Fails File.create (after File.create {} refused) ∧
      (after File.create {} (refused ++ [accepted, last])).handlers =
        [⟨.console, some entryFormat⟩, ⟨.file "z.log", some entryFormat⟩] := by
  intro refused accepted last
  have hall : AllFail File.create {} refused := ⟨⟨_, rfl⟩, ⟨_, rfl⟩, trivial⟩
  have haccepted : ¬accepted.Fails File.create (after File.create {} refused) := by
    rintro ⟨e, he⟩
    cases he
  obtain ⟨-, hlater, -⟩ := handlers_attached_once File.create (l := {}) rfl refused
  exact ⟨rfl, hall, haccepted, hlater accepted [last] haccepted⟩

end NetSurvey.Logger
