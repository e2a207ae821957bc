import ConstrainedDecoding.Http.Failure
import ConstrainedDecoding.Http.Status
import ConstrainedDecoding.Json.Reader
import ConstrainedDecoding.Text.Charset.Error
import ConstrainedDecoding.Url.Label.Basic

/-!
Everything that can go wrong, by cause. `Fault.kind` sorts the causes into the classes under which
callers catch them, and `Fault.message` words them. A fault that an engine or a callback reports
brings its own class and wording.
-/

namespace ConstrainedDecoding

/-! ## Classes of faults -/

/-- The classes under which faults are caught and reported. -/
inductive FaultKind
  /-- A value of a type that an operation does not take. -/
  | mismatch
  /-- A value of the right type that an operation cannot use. -/
  | badValue
  /-- A number too large for its destination. -/
  | overflow
  | noAttribute
  | noKey
  | badIndex
  | runtime
  /-- Values nested too deep. -/
  | recursion
  | undecodable
  | malformedJson
  | noFile
  | noModule
  | importing
  /-- The general class of this library's own faults. -/
  | guidance
  | vocabularyNotFound
  | malformedDescriptor
  | fetch
  | oracleInit
  | notInitialized
  | badUrl
  /-- A host name that has no readable form. -/
  | badLabel (error : LabelError)
  /-- A text that an encoding does not cover. -/
  | unencodable
  /-- A text that an encoding cannot make anything of. -/
  | unreadable
  /-- An operation for which something is not meant. -/
  | misuse
  | redirectLimit
  | badLocation
  /-- A failed exchange over the network, with the name of what failed. -/
  | transport (name : String)
  deriving DecidableEq, Repr

namespace FaultKind

/-- This library's own faults. -/
def isGuidance : FaultKind → Bool
  | guidance | vocabularyNotFound | malformedDescriptor | fetch | oracleInit | notInitialized =>
    true
  | _ => false

/-- Faults by which an engine turns down a grammar or a tokenizer. Malformed JSON, undecodable
bytes, texts that do not fit an encoding and misspelled host names are bad values, and nesting too
deep fails at run time. -/
def isRejection (kind : FaultKind) : Bool :=
  match kind with
  | mismatch | badValue | undecodable | unencodable | unreadable | badLabel _ | malformedJson
  | runtime | recursion => true
  | _ => kind.isGuidance

end FaultKind

/-! ## Faults -/

/-- What is known of a failed exchange: the URL asked for, and the response's status and body, where
there was a response. -/
structure FetchReport where
  status : Option Nat := none
  url : Option String := none
  body : Option String := none
  deriving DecidableEq, Repr

/-- What went wrong. Names of types are those of `Value.typeName`. -/
inductive Fault
  -- Conversions of values
  | notEncodable (type : String)
  | keyNotEncodable (type : String)
  /-- An integer with too many digits to be written. -/
  | longInteger
  /-- Arrays and objects nested too deep to be written. -/
  | deepNesting
  /-- Values nested too deep to be shown. -/
  | deepDisplay
  | notIterable (type : String)
  | notSized (type : String)
  | notNumeric (type : String)
  | notIndexable (type : String)
  | notContainer (type : String)
  | notComparable
  | notHashable (type : String)
  | notCallable (type : String)
  | notMapping (type : String)
  | wrongArguments
  | badNumeral (shown : String)
  | notFinite
  | infiniteInteger
  | wrongCount
  | noAttribute (type name : String)
  | noKey (shown : String)
  | badIndex
  | badElementIndex
  | lossyFill
  | lossyElement
  | hugeInteger
  | notRectangular
  | shapeMismatch
  | negativeLength (length : Int)
  | unreadable (error : Json.ReadError)
  | undecodableFile (error : Text.EncodingError)
  | noFile
  -- Tokenizer descriptions
  | vocabularyNotFound
  | mergeWithoutSeparator (shown : String)
  | mergeNotPair (shown : String)
  | documentNotObject (type : String)
  | documentWithoutVocabulary
  | fileNotJson (path : String) (error : Json.SyntaxError)
  | responseNotJson (url : String) (error : Json.ReadError)
  -- Fetching
  | requestFailed (failure : Http.Failure) (url : String)
  | badStatus (status : Nat) (url body : String)
  | invalidUrl (error : UrlError)
  | unreadableHost (error : LabelError)
  | notAsciiHost
  /-- A response to a request for a URL that names no scheme. -/
  | schemelessUrl (url : String)
  | notAsciiHeader
  | unreadableText (error : Text.CharsetError)
  | nullInCharset
  -- Grammars and settings
  | notGrammar (type : String)
  | depthNotInteger (shown : String)
  | depthNotPositive (depth : Int)
  | unknownSetting (name : String)
  -- Masking
  | notVector (shape : List Nat)
  | batched (count : Nat)
  -- Engines and matchers
  | uninitialized
  | engineMissing
  | engineNotStarted
  | emptyVocabulary
  | noGrammars
  | unknownConstraint (shown : String)
  | engineRejected (detail : String)
  | rejectedAtCreation (cause : Fault)
  | rejectedOnReset (cause : Fault)
  /-- Raised by a collaborator, with its own class and wording. -/
  | reported (kind : FaultKind) (message : String)
  deriving DecidableEq, Repr

/-- The class of a reading error. -/
def Json.ReadError.kind : Json.ReadError → FaultKind
  | .malformed _ => .malformedJson
  | .tooManyDigits _ => .badValue
  | .tooDeep _ => .recursion
  | .undecodable _ => .undecodable

/-- The class of what keeps a charset from reading. -/
def Text.CharsetError.kind : Text.CharsetError → FaultKind
  | .noMark | .intolerant => .unreadable
  | .notAscii => .undecodable
  | .transfer => .misuse
  | .cipher => .mismatch

/-- The lengths of a tensor's dimensions in parentheses; a single one is followed by a comma. -/
def shapeText : List Nat → String
  | [length] => s!"({length},)"
  | lengths => "(" ++ ", ".intercalate (lengths.map toString) ++ ")"

/-- The class of a failed exchange. -/
def Http.Failure.kind : Http.Failure → FaultKind
  | .reported name _ => .transport name
  | .redirectLimit => .redirectLimit
  | .badLocation _ => .badLocation
  | .badContent _ => .transport "DecodingError"

namespace Fault

/-- The class of a fault. -/
def kind : Fault → FaultKind
  | notEncodable _ | keyNotEncodable _ | notIterable _ | notSized _ | notNumeric _ | notIndexable _
  | notContainer _ | notComparable | notHashable _ | notCallable _ | notMapping _
  | wrongArguments | notGrammar _
  | unknownSetting _ => .mismatch
  | badNumeral _ | notFinite | notRectangular | wrongCount | schemelessUrl _ | nullInCharset
  | longInteger | depthNotInteger _ | depthNotPositive _ | notVector _ | batched _ => .badValue
  | deepNesting | deepDisplay => .recursion
  | infiniteInteger | hugeInteger => .overflow
  | noAttribute _ _ => .noAttribute
  | noKey _ => .noKey
  | badIndex => .badIndex
  | badElementIndex | lossyFill | lossyElement | shapeMismatch | negativeLength _ => .runtime
  | unreadable error => error.kind
  | undecodableFile _ => .undecodable
  | noFile => .noFile
  | vocabularyNotFound => .vocabularyNotFound
  | mergeWithoutSeparator _ | mergeNotPair _ | documentNotObject _ | documentWithoutVocabulary
  | fileNotJson _ _ | responseNotJson _ _ => .malformedDescriptor
  | requestFailed _ _ | badStatus _ _ _ => .fetch
  | invalidUrl .unencodable => .unencodable
  | invalidUrl _ => .badUrl
  | unreadableHost error => .badLabel error
  | notAsciiHost | notAsciiHeader => .unencodable
  | unreadableText error => error.kind
  | uninitialized => .notInitialized
  | engineMissing | engineNotStarted | emptyVocabulary | noGrammars | unknownConstraint _
  | engineRejected _ | rejectedAtCreation _ | rejectedOnReset _ => .oracleInit
  | reported kind _ => kind

/-- The wording of a fault. -/
def message : Fault → String
  | notEncodable type => s!"Object of type {type} is not JSON serializable"
  | keyNotEncodable type => s!"keys must be str, int, float, bool or None, not {type}"
  | longInteger =>
    s!"Exceeds the limit ({maxIntegerDigits} digits) for integer string conversion; " ++
      "use sys.set_int_max_str_digits() to increase the limit"
  | deepNesting => "maximum recursion depth exceeded while encoding a JSON object"
  | deepDisplay => "maximum recursion depth exceeded while getting the repr of an object"
  | notIterable type => s!"'{type}' object is not iterable"
  | notSized type => s!"object of type '{type}' has no len()"
  | notNumeric type =>
    s!"int() argument must be a string, a bytes-like object or a real number, not '{type}'"
  | notIndexable type => s!"'{type}' object is not subscriptable"
  | notContainer type => s!"argument of type '{type}' is not iterable"
  | notComparable => "values of these types cannot be ordered"
  | notHashable type => s!"unhashable type: '{type}'"
  | notCallable type => s!"'{type}' object is not callable"
  | notMapping type => s!"'{type}' object is not a mapping"
  | wrongArguments => "wrong number of arguments"
  | badNumeral shown => s!"invalid literal for int() with base 10: {shown}"
  | notFinite => "cannot convert float NaN to integer"
  | infiniteInteger => "cannot convert float infinity to integer"
  | wrongCount => "wrong number of values to unpack (expected 2)"
  | noAttribute type name => s!"'{type}' object has no attribute '{name}'"
  | noKey shown => shown
  | badIndex => "index out of range"
  | badElementIndex => "index too large for a tensor"
  | lossyFill | lossyElement => "value cannot be converted without overflow"
  | hugeInteger => "integer too large for a floating-point number"
  | notRectangular => "sequences of one depth differ in length"
  | shapeMismatch => "the shapes of the tensors do not match"
  | negativeLength length =>
    s!"Trying to create tensor with negative dimension {length}: [1, {length}]"
  | unreadable error => error.message
  | undecodableFile error => error.message
  | noFile => "No such file or directory"
  | vocabularyNotFound =>
    "Unable to extract vocabulary from tokenizer: expected a get_vocab() method, " ++
      "a model.vocab field or a vocab field"
  | mergeWithoutSeparator shown => s!"Merge rule without separator: {shown}"
  | mergeNotPair shown => s!"Merge rule must be a pair, got {shown}"
  | documentNotObject type => s!"Invalid tokenizer document: expected an object, got {type}"
  | documentWithoutVocabulary => "Invalid tokenizer document: missing model.vocab"
  | fileNotJson path error => s!"Invalid tokenizer document {path}: {error.message}"
  | responseNotJson url error => s!"Response from {url} is not valid JSON: {error.message}"
  | requestFailed failure url => s!"Request to {url} failed: {failure.message}"
  | badStatus status url _ => s!"Failed to fetch {url}: {status} {Http.phrase status}"
  | invalidUrl error => error.message
  | unreadableHost _ => "the host name has no readable form"
  | notAsciiHost => "the host is not ASCII"
  | schemelessUrl url => s!"unknown url type: {Text.quoted url}"
  | notAsciiHeader => "a header is not ASCII"
  | unreadableText error => error.message
  | nullInCharset => "embedded null character"
  | notGrammar type => s!"Unsupported grammar variant: {type}"
  | depthNotInteger shown => s!"speculation_depth must be an integer, got {shown}"
  | depthNotPositive depth => s!"speculation_depth must be >= 1, got {depth}"
  | unknownSetting name => s!"unexpected keyword argument '{name}'"
  | notVector shape => s!"Expected 1-D logits, got shape {shapeText shape}"
  | batched count => s!"Batched scores are not supported, got batch size {count}"
  | uninitialized =>
    "GrammarMatcher not initialized. Use GrammarMatcher.create() to create an instance."
  | engineMissing =>
    "llguidance is required for the default oracle backend. Install with: pip install llguidance"
  | engineNotStarted => "LLGuidanceBackend.start() must complete before init()"
  | emptyVocabulary => "Tokenizer vocabulary is empty"
  | noGrammars => "No grammars provided"
  | unknownConstraint shown => s!"Unrecognized grammar constraint keys: {shown}"
  | engineRejected detail => s!"Grammar rejected by llguidance: {detail}"
  | rejectedAtCreation cause => s!"Oracle rejected grammar or tokenizer: {cause.message}"
  | rejectedOnReset cause => s!"Oracle rejected grammar on reset: {cause.message}"
  | reported _ message => message

/-- The class of the fault that a fault was derived from. -/
def cause? : Fault → Option FaultKind
  | fileNotJson _ _ => some .malformedJson
  | responseNotJson _ error => some error.kind
  | requestFailed failure _ => some failure.kind
  | engineMissing => some .noModule
  | rejectedAtCreation cause | rejectedOnReset cause => some cause.kind
  | _ => none

/-- What is known of the failed exchange. -/
def report? : Fault → Option FetchReport
  | requestFailed _ url => some { url }
  | badStatus status url body => some { status, url, body }
  | reported .fetch _ => some {}
  | _ => none

/-- Whether the wording is this library's own, the JSON reader's or a collaborator's, and not that
of a conversion. -/
def isWorded (fault : Fault) : Bool :=
  match fault with
  | notGrammar _ | depthNotInteger _ | depthNotPositive _ | notVector _ | batched _
  | reported _ _ => true
  | _ => fault.kind.isGuidance || fault.kind = .malformedJson

end Fault

end ConstrainedDecoding
