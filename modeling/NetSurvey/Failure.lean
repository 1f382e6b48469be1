import NetSurvey.Datum.Order
import NetSurvey.Specification
import NetSurvey.Text.Unencodable
import NetSurvey.Url

/-!
# Failures

A failure is what makes a probe or a scan end without a result. Failures of the network come in
families, since probes tell them apart: a failed system call, a failed request for a page (which is
a failed system call as well) and a failed lookup become a negative outcome where they are expected.
An interrupt is no ordinary failure: it ends the worker that meets it.
-/

namespace NetSurvey

/-! ### Failures of the network -/

/-- Failed system calls. -/
inductive SocketFault where
  | general
  | refused
  | reset
  | timedOut
  | denied
  | unknownHost
deriving DecidableEq, Repr

/-- Failed requests for a page. -/
inductive RequestFault where
  | general
  | connection
  | timeout
  | connectTimeout
  | readTimeout
  | redirects
  | invalidUrl
  | missingScheme
  | invalidScheme
  | tls
  | proxy
  | status
  | chunkedEncoding
  | contentDecoding
deriving DecidableEq, Repr

/-- Failed lookups. -/
inductive LookupFault where
  | general
  /-- There is no such name. -/
  | noSuchName
  | noAnswer
  | noServers
  | noConfiguration
  | timeout
  | labelTooLong
  | emptyLabel
deriving DecidableEq, Repr

/-- What a failed lookup of no particular kind says, which explains the family of failed lookups. -/
def LookupFault.generalText : String :=
  "\n".intercalate [
    "Abstract base class shared by all dnspython exceptions.",
    "",
    "    It supports two basic modes of operation:",
    "",
    "    a) Old/compatible mode is used if ``__init__`` was called with",
    "    empty *kwargs*.  In compatible mode all *args* are passed",
    "    to the standard Python Exception class as before and all *args* are",
    "    printed by the standard ``__str__`` implementation.  Class variable",
    "    ``msg`` (or doc string if ``msg`` is ``None``) is returned from ``str()``",
    "    if *args* is empty.",
    "",
    "    b) New/parametrized mode is used if ``__init__`` was called with",
    "    non-empty *kwargs*.",
    "    In the new mode *args* must be empty and all kwargs must match",
    "    those set in class variable ``supp_kwargs``. All kwargs are stored inside",
    "    ``self.kwargs`` and used in a new ``__str__`` implementation to construct",
    "    a formatted message based on the ``fmt`` class variable, a ``string``.",
    "",
    "    In the simplest case it is enough to override the ``supp_kwargs``",
    "    and ``fmt`` class variables to get nice parametrized messages.",
    "    "]

/-- What is said about a failed lookup if it says nothing itself. -/
def LookupFault.text : LookupFault → String
  | .general => generalText
  | .noSuchName => "The DNS query name does not exist."
  | .noAnswer => "no answer"
  | .noServers => "All nameservers failed to answer the query."
  | .noConfiguration =>
    "Resolver configuration could not be read or specified no nameservers."
  | .timeout => "The DNS operation timed out."
  | .labelTooLong => "A DNS label is > 63 octets long."
  | .emptyLabel => "A DNS label is empty."

/-- Failures of no particular family. -/
inductive PlainFault where
  | general
  | value
  | key
  | type
  | runtime
  | overflow
  | encoding
deriving DecidableEq, Repr

/-- Interrupts, which end a worker. -/
inductive Interrupt where
  | exit
  | keyboard
  | stopped
deriving DecidableEq, Repr

/-- The name of an interrupt in messages. -/
def Interrupt.name : Interrupt → String
  | .exit => "SystemExit"
  | .keyboard => "KeyboardInterrupt"
  | .stopped => "Interrupted"

/-! ### Particulars -/

/-- What another party tells about a failure: a code, a text, both or neither. -/
structure Particulars where
  code : Option Int := none
  text : Option Text := none
deriving DecidableEq, Repr

namespace Particulars

/-- The particulars as they are shown, one after the other. -/
def listed (p : Particulars) : Text :=
  Text.commaSeparated
    ((p.code.map fun n => (Datum.int n).shown).toList ++ (p.text.map Text.quoted).toList)

/-- The particulars of a failure of no family: both as a pair, or the one that is told. -/
def plain (p : Particulars) : Text :=
  match p.code, p.text with
  | some _, some _ => "(" ++ p.listed ++ ")"
  | some n, none => toString n
  | none, some t => t
  | none, none => []

/-- The particulars of a failed system call: the code goes before the text. -/
def ofSystem (p : Particulars) : Text :=
  match p.code, p.text with
  | some n, some t => s!"[Errno {n}] " ++ t
  | _, _ => p.plain

/-- The particulars of a missing key, which is shown and not told. -/
def ofKey (p : Particulars) : Text :=
  match p.code, p.text with
  | some _, some _ => p.plain
  | _, _ => p.listed

end Particulars

/-! ### All failures -/

/-- Why there is no result. -/
inductive Failure where
  | socket (fault : SocketFault) (said : Particulars)
  | request (fault : RequestFault) (said : Particulars)
  | lookup (fault : LookupFault) (said : Particulars)
  /-- A probe found out that its candidate cannot be reached. -/
  | probe (text : Text)
  | specification (cause : SpecificationError)
  | exhaustion (cause : Exhaustion)
  /-- A failure of a survey that is none of the kinds above. -/
  | survey (text : Text)
  | arithmetic (cause : ArithmeticError)
  | integer (cause : IntegerError)
  /-- Something that is neither a number nor a text stands for an integer. -/
  | noInteger (kind : String)
  /-- Something that is not a text is to be matched. -/
  | noText (kind : String)
  /-- Something is asked for a part that its kind does not have. -/
  | noPart (kind part : String)
  /-- Something that is made of nothing is to be gone through. -/
  | noParts (kind : String)
  /-- Something that is made of nothing is to be searched. -/
  | notSearchable (kind : String)
  /-- Two data have no order. -/
  | incomparable (cause : Incomparable)
  /-- Something that can change is to be a key. -/
  | noKey (kind : String)
  /-- A deadline is to be set without a duration. -/
  | noDuration
  | url (cause : UrlError)
  /-- A null character stands where none can. -/
  | nullCharacter
  /-- A text has no bytes. -/
  | noBytes (found : Text.Unencodable)
  /-- A number is to be a byte and is not in its range. -/
  | noByte
  /-- A schedule needs at least one worker. -/
  | fewWorkers (count : Int)
  /-- A worker could not be started. -/
  | startRefused
  /-- A probe gave no outcome where a part of one is needed. -/
  | noOutcome (part : String)
  /-- There is nothing left to take away. -/
  | nothingToTake
  | plain (fault : PlainFault) (said : Particulars)
  | interrupt (kind : Interrupt) (said : Particulars)
deriving DecidableEq, Repr

namespace Failure

/-- What a failure says. -/
def message : Failure → Text
  | socket _ said => said.ofSystem
  | request _ said => said.ofSystem
  | lookup fault said => if said = {} then fault.text else said.plain
  | probe text => text
  | specification cause => cause.message
  | exhaustion cause => cause.message
  | survey text => text
  | arithmetic cause => cause.message
  | integer cause => cause.message
  | noInteger kind =>
    s!"int() argument must be a string, a bytes-like object or a real number, not '{kind}'"
  | noText kind => s!"expected string or bytes-like object, got '{kind}'"
  | noPart kind part => s!"'{kind}' object has no attribute '{part}'"
  | noParts kind => s!"'{kind}' object is not iterable"
  | notSearchable kind => s!"argument of type '{kind}' is not iterable"
  | incomparable cause =>
    s!"'<' not supported between instances of '{cause.left}' and '{cause.right}'"
  | noKey kind => s!"unhashable type: '{kind}'"
  | noDuration => "unsupported operand type(s) for +: 'float' and 'NoneType'"
  | url cause => cause.message
  | nullCharacter => "embedded null byte"
  | noBytes found => found.notUtf8
  | noByte => "byte must be in range(0, 256)"
  | fewWorkers count => s!"max_workers must be >= 1, got {count}"
  | startRefused => "can't start new thread"
  | noOutcome part => s!"'NoneType' object has no attribute '{part}'"
  | nothingToTake => "pop from empty list"
  | plain .key said => said.ofKey
  | plain _ said => said.plain
  | interrupt _ said => said.plain

/-- An interrupt with its name, as it is reported. -/
def interruptText (kind : Interrupt) (said : Particulars) : Text :=
  kind.name ++ "(" ++ said.listed ++ ")"

/-- A failed system call; a failed request is one as well. -/
def isSocket : Failure → Bool
  | socket .. => true
  | request .. => true
  | _ => false

/-- A failed request for a page. -/
def isRequest : Failure → Bool
  | request .. => true
  | _ => false

/-- A failed lookup. -/
def isLookup : Failure → Bool
  | lookup .. => true
  | _ => false

/-- A lookup that found that there is no such name. -/
def isNoSuchName : Failure → Bool
  | lookup .noSuchName _ => true
  | _ => false

/-- A failure that a probe reports about its candidate. -/
def isProbe : Failure → Bool
  | probe _ => true
  | _ => false

/-- A specification that is not well formed. -/
def isSpecification : Failure → Bool
  | specification _ => true
  | _ => false

/-- More candidates than are allowed. -/
def isExhaustion : Failure → Bool
  | exhaustion _ => true
  | _ => false

/-- A failure that a survey itself reports. -/
def isSurvey : Failure → Bool
  | probe _ | specification _ | exhaustion _ | survey _ => true
  | _ => false

/-- A failure that is about a value that does not fit. -/
def isValue : Failure → Bool
  | request fault _ => fault = .invalidUrl || fault = .missingScheme || fault = .invalidScheme
  | specification _ | integer _ | url _ | nullCharacter | noBytes _ | noByte | fewWorkers _ => true
  | arithmetic cause => cause = .wholeOfNaN
  | plain fault _ => fault = .value || fault = .encoding
  | _ => false

end Failure

/-! ### Readings of data -/

namespace Datum

/-- The integer that a datum stands for: a number without its fraction, a truth value, or a text
that is read. -/
def toInteger : Datum → Except Failure Int
  | .number (.int n) => .ok n
  | .number (.float x) => (Number.truncate x).mapError .arithmetic
  | .bool b => .ok (if b then 1 else 0)
  | .text s => (Integer.read s).mapError .integer
  | d => .error (.noInteger d.kindName)

/-- The text that a datum is. Anything else is asked for a part that only texts have. -/
def asText (part : String) : Datum → Except Failure Text
  | .text t => .ok t
  | d => .error (.noPart d.kindName part)

/-- The text that a datum is, or an empty one where it is not there. -/
def textOrEmpty (part : String) (d : Datum) : Except Failure Text :=
  if d.isPresent then d.asText part else .ok []

/-- What a datum is made of. -/
def parts (d : Datum) : Except Failure (List Datum) :=
  match d.parts? with
  | some ds => .ok ds
  | none => .error (.noParts d.kindName)

end Datum

end NetSurvey
