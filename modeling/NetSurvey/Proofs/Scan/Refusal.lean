import NetSurvey.Proofs.Scan.Survey
import NetSurvey.Proofs.Text.Whole

/-!
# How a survey is refused

What a caller asks for in texts is refused in two ways, as not well formed or as too much, and both
refusals have messages that can be written, whatever the texts are (`Failure.IsRefusal`). There are
two ways past this. A base URL that cannot be taken apart fails with what went wrong there, and so
does the path of a wordlist that no file can have. `Survey.unreported?` is the failure of these two
kinds that a survey meets, if it meets one.
-/

namespace NetSurvey

/-- A failure that tells the caller what is wrong with what was asked for, in a message that can be
written. -/
inductive Failure.IsRefusal : Failure → Prop
  | specification {cause : SpecificationError} (h : cause.message.isWhole = true) :
    IsRefusal (.specification cause)
  | exhaustion {cause : Exhaustion} (h : cause.message.isWhole = true) :
    IsRefusal (.exhaustion cause)

theorem Failure.IsRefusal.kind {e : Failure} (h : e.IsRefusal) :
    e.isSpecification = true ∨ e.isExhaustion = true := by
  cases h with
  | specification => exact .inl rfl
  | exhaustion => exact .inr rfl

/-- Why no file can have the path of a wordlist. An empty path names no file. -/
def WordFile.pathFault? (file : WordFile) : Option Failure :=
  if file.path.isEmpty then none
  else
    match File.unencodable? file.path with
    | some found => some (.noBytes found)
    | none => if file.path.contains (Char.ofNat 0) then some .nullCharacter else none

namespace Survey

open Scan

/-- A survey that is asked for in texts. -/
inductive IsWritten : Survey → Prop
  | subnet (cidr : Text) : IsWritten (.subnet (.text cidr))
  | usualPorts (host : Text) : IsWritten (.ports (.text host) .usual)
  | writtenPorts (host spec : Text) : IsWritten (.ports (.text host) (.written spec))
  | directories (base : Text) (file : Option WordFile) : IsWritten (.directories (.text base) file)
  | subdomains (resolver : Probe.Resolver) (domain : Text) (file : Option WordFile) :
    IsWritten (.subdomains resolver (.text domain) file)
  | sweep (resolver : Probe.Resolver) (cidr : Text) : IsWritten (.sweep resolver (.text cidr))

/-- The failure of a survey that is not told as a refusal. -/
def unreported? : Survey → Option Failure
  | directories (.text base) file =>
    match Url.isBase base with
    | .error cause => some (.url cause)
    | .ok true => file.bind WordFile.pathFault?
    | .ok false => none
  | subdomains _ (.text domain) file =>
    if Hostname.isDomainText domain then file.bind WordFile.pathFault? else none
  | _ => none

/-! ### Failures of the parts -/

/-- A check fails, or refuses; then the candidates cannot be found out, or there is none. -/
theorem checked_eq_error_iff {α : Type} {isFit : Except Failure Bool}
    {unfit nothing : SpecificationError} {found : Except Failure (List α)} {e : Failure} :
    checked isFit unfit found nothing = .error e ↔
      isFit = .error e ∨ (isFit = .ok false ∧ .specification unfit = e) ∨
        isFit = .ok true ∧ (found = .error e ∨ found = .ok [] ∧ .specification nothing = e) := by
  match isFit, found with
  | .error _, _ => simp [checked, bind, Except.bind]
  | .ok false, _ => simp [checked, bind, Except.bind]
  | .ok true, .error _ => simp [checked, bind, Except.bind]
  | .ok true, .ok [] => simp [checked, bind, Except.bind]
  | .ok true, .ok (_ :: _) => simp [checked, bind, Except.bind]

/-- What is wrong with the text of a block can always be told. -/
theorem isWhole_message_ofText {cidr : Text} {cause : SpecificationError}
    (h : Block.ofText cidr = .error cause) : cause.message.isWhole = true := by
  revert h
  fun_cases Block.ofText cidr <;> intro h
  case case3 => cases h
  all_goals
    obtain rfl := Except.error.inj h
    simp [SpecificationError.message, IntegerError.isWhole_message]

theorem isRefusal_blockHosts {cidr : Text} {limit : Int} {e : Failure}
    (h : (blockHosts (.text cidr) limit).value = .error e) : e.IsRefusal := by
  cases hblock : Block.ofText cidr with
  | error cause =>
    have hexpand : Block.expand (.text cidr) (some limit) = .error (.specification cause) := by
      rw [Block.expand, Block.ofDatum, hblock]
    rw [value, blockHosts, hexpand] at h
    obtain rfl := Except.error.inj h
    exact .specification (isWhole_message_ofText hblock)
  | ok b =>
    have hexpand : Block.expand (.text cidr) (some limit) =
        if limit < b.hostCount then .error (.exhaustion ⟨b.hostCount, limit, .hosts⟩)
        else .ok (b.hosts.map Address.text) := by
      rw [Block.expand, Block.ofDatum, hblock]
    by_cases hlimit : limit < b.hostCount
    · rw [value, blockHosts, hexpand, if_pos hlimit] at h
      obtain rfl := Except.error.inj h
      exact .exhaustion (Text.isWhole_ofString _)
    · rw [value, blockHosts, hexpand, if_neg hlimit] at h
      cases h

/-- Too many written ports can always be told. -/
theorem isWhole_message_expandTokens {limit : Option Int} {taken : Nat}
    {tokens : List PortSpec.Token} {cause : Exhaustion}
    (h : PortSpec.expandTokens limit taken tokens = .error cause) :
    cause.message.isWhole = true := by
  induction tokens generalizing taken with
  | nil => cases h
  | cons t ts ih =>
    rw [PortSpec.expandTokens] at h
    split at h
    case isTrue =>
      obtain rfl := Except.error.inj h
      exact Text.isWhole_ofString _
    case isFalse =>
      split at h
      case h_1 => cases h
      case h_2 e hrest =>
        obtain rfl := Except.error.inj h
        exact ih hrest

/-- A wordlist is loaded unless no file can have its path. Where the file cannot be read, or none is
named, the default list is taken. -/
theorem value_loadWords (file : WordFile) (default : List Text) :
    (loadWords (some file) default).value =
      match file.pathFault? with
      | some e => .error e
      | none => .ok (if file.path.isEmpty then default
          else (file.bytes?.map Wordlist.parse).getD default) := by
  simp only [value, loadWords, Wordlist.load, WordFile.pathFault?]
  by_cases hempty : file.path.isEmpty = true
  · simp only [if_pos hempty]
    rfl
  simp only [if_neg hempty]
  cases File.unencodable? file.path with
  | some found => rfl
  | none =>
    by_cases hnull : file.path.contains (Char.ofNat 0) = true
    · simp only [if_pos hnull]
      rfl
    · simp only [if_neg hnull]
      cases file.bytes? <;> rfl

theorem value_loadWords_eq_error_iff {file : Option WordFile} {default : List Text} {e : Failure} :
    (loadWords file default).value = .error e ↔ file.bind WordFile.pathFault? = some e := by
  cases file with
  | none => exact ⟨nofun, nofun⟩
  | some file =>
    rw [value_loadWords, Option.bind_some]
    cases file.pathFault? with
    | none => simp
    | some fault => simp

theorem isRefusal_writtenPorts {s : Settings} {spec : Text} {e : Failure}
    (h : (choosePorts s (.written spec)).value = .error e) : e.IsRefusal := by
  rw [value, result_writtenPorts] at h
  cases hexpand : PortSpec.expand spec (some s.maxPorts) with
  | ok ports => rw [hexpand] at h; cases h
  | error cause =>
    rw [hexpand] at h
    obtain rfl := Except.error.inj h
    exact .exhaustion (isWhole_message_expandTokens hexpand)

/-- A wordlist that cannot be read is the default list. -/
theorem value_loadWords_unreadable {path : Text} (h : WordFile.pathFault? ⟨path, none⟩ = none)
    (default : List Text) :
    (loadWords (some ⟨path, none⟩) default).value = (loadWords none default).value := by
  rw [value_loadWords, h]
  cases path.isEmpty <;> rfl

theorem isBase_text (base : Text) : isBase (.text base) = (Url.isBase base).mapError .url := by
  cases base <;> rfl

/-! ### Failures of a survey -/

/-- Where the check comes to an end and its parts refuse, nothing but refusals is met. -/
theorem isRefusal_checked {α : Type} {isFit : Except Failure Bool}
    {unfit nothing : SpecificationError} {found : Except Failure (List α)} {e : Failure}
    (h : checked isFit unfit found nothing = .error e) (hfit : isFit ≠ .error e)
    (hunfit : unfit.message.isWhole = true)
    (hfound : isFit = .ok true → found = .error e → e.IsRefusal)
    (hnothing : nothing.message.isWhole = true) : e.IsRefusal := by
  obtain hcheck | ⟨-, rfl⟩ | ⟨hok, hcandidates | ⟨-, rfl⟩⟩ := checked_eq_error_iff.mp h
  · exact absurd hcheck hfit
  · exact .specification hunfit
  · exact hfound hok hcandidates
  · exact .specification hnothing

variable {survey : Survey} {s : Settings} {e : Failure}

theorem kind_of_pathFault {file : Option WordFile} (h : file.bind WordFile.pathFault? = some e) :
    e.isSpecification = false ∧ e.isExhaustion = false := by
  obtain ⟨file, -, hfault⟩ := Option.bind_eq_some_iff.mp h
  rw [WordFile.pathFault?] at hfault
  split at hfault
  · cases hfault
  · split at hfault
    · obtain rfl := Option.some.inj hfault
      exact ⟨rfl, rfl⟩
    · split at hfault
      · obtain rfl := Option.some.inj hfault
        exact ⟨rfl, rfl⟩
      · cases hfault

/-- What goes unreported is told neither as not well formed nor as too much. -/
theorem kind_of_unreported (h : survey.unreported? = some e) :
    e.isSpecification = false ∧ e.isExhaustion = false := by
  revert h
  fun_cases unreported? survey <;> intro h
  case case1 =>
    obtain rfl := Option.some.inj h
    exact ⟨rfl, rfl⟩
  case case2 => exact kind_of_pathFault h
  case case4 => exact kind_of_pathFault h
  all_goals cases h

theorem candidates_of_unreported (s : Settings) (h : survey.unreported? = some e) :
    survey.candidates s = .error e := by
  revert h
  fun_cases unreported? survey <;> intro h
  case case1 base file cause hbase =>
    obtain rfl := Option.some.inj h
    refine map_eq_error_iff.mpr (checked_eq_error_iff.mpr (.inl ?_))
    rw [isBase_text, hbase]
    rfl
  case case2 base file hbase =>
    refine map_eq_error_iff.mpr (checked_eq_error_iff.mpr (.inr (.inr ⟨?_, .inl ?_⟩)))
    · rw [isBase_text, hbase]
      rfl
    · exact value_loadWords_eq_error_iff.mpr h
  case case4 resolver domain file hdomain =>
    refine map_eq_error_iff.mpr (checked_eq_error_iff.mpr (.inr (.inr ⟨?_, .inl ?_⟩)))
    · exact congrArg Except.ok hdomain
    · exact value_loadWords_eq_error_iff.mpr h
  all_goals cases h

/-- A survey that is asked for in texts meets no failures but refusals and the unreported ones. -/
theorem isRefusal_of_candidates (hwritten : survey.IsWritten) (hnone : survey.unreported? = none)
    (he : survey.candidates s = .error e) : e.IsRefusal := by
  cases hwritten with
  | subnet cidr => exact isRefusal_blockHosts (map_eq_error_iff.mp he)
  | sweep resolver cidr => exact isRefusal_blockHosts (map_eq_error_iff.mp he)
  | usualPorts host =>
    refine isRefusal_checked (map_eq_error_iff.mp he) nofun ?_ (fun _ => nofun) ?_
    · simp [SpecificationError.message, Datum.shown]
    · simp [SpecificationError.message, PortChoice.shown, Datum.shown]
  | writtenPorts host spec =>
    refine isRefusal_checked (map_eq_error_iff.mp he) nofun ?_ (fun _ => isRefusal_writtenPorts) ?_
    · simp [SpecificationError.message, Datum.shown]
    · simp [SpecificationError.message, PortChoice.shown]
  | directories base file =>
    cases hurl : Url.isBase base with
    | error cause => simp [unreported?, hurl] at hnone
    | ok isUrl =>
      -- The path of the wordlist is only looked at under a base URL that is fit.
      have hbase : isBase (.text base) = .ok isUrl := by
        rw [isBase_text, hurl]
        rfl
      refine isRefusal_checked (map_eq_error_iff.mp he) (by rw [hbase]; nofun) ?_
        (fun htrue hfound => ?_) rfl
      · simp [SpecificationError.message, Datum.shown]
      · obtain rfl := Except.ok.inj (hbase.symm.trans htrue)
        simp [unreported?, hurl, value_loadWords_eq_error_iff.mp hfound] at hnone
  | subdomains resolver domain file =>
    refine isRefusal_checked (map_eq_error_iff.mp he) nofun ?_ (fun htrue hfound => ?_) rfl
    · simp [SpecificationError.message, Datum.shown]
    · have hdomain : Hostname.isDomainText domain = true := Except.ok.inj htrue
      simp [unreported?, hdomain, value_loadWords_eq_error_iff.mp hfound] at hnone

end Survey

end NetSurvey
