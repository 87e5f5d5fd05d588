import MediaNaming.Number.Decimal
import MediaNaming.Text.Quoted
import MediaNaming.Text.Utf8
/-!
# Failures

What can go wrong, by cause. `Failure.kind` puts a cause into one of the named kinds that skip
records, log records and callers tell apart, and `Failure.message` is its wording.
-/

namespace MediaNaming

/-- What the operating system refuses. -/
inductive SystemCode where
  | missing
  | busy
  | alreadyThere
  | noDirectory
  | isDirectory
  | invalid
  | nameTooLong
  | notEmpty
  | linkLoop
  deriving DecidableEq, Repr

namespace SystemCode

/-- The number that the operating system gives. -/
def number : SystemCode → Nat
  | missing => 2
  | busy => 16
  | alreadyThere => 17
  | noDirectory => 20
  | isDirectory => 21
  | invalid => 22
  | nameTooLong => 36
  | notEmpty => 39
  | linkLoop => 40

/-- The words that the operating system gives. -/
def description : SystemCode → String
  | missing => "No such file or directory"
  | busy => "Device or resource busy"
  | alreadyThere => "File exists"
  | noDirectory => "Not a directory"
  | isDirectory => "Is a directory"
  | invalid => "Invalid argument"
  | nameTooLong => "File name too long"
  | notEmpty => "Directory not empty"
  | linkLoop => "Too many levels of symbolic links"

end SystemCode

/-- The named kinds of failures. -/
inductive FailureKind where
  | system
  | permission
  | fileMissing
  | fileExists
  | noDirectory
  | isDirectory
  | unidentifiedImage
  | badValue
  | badText
  | undecodable
  | badSettings
  | runtime
  | tooDeep
  | wrongType
  | missingAttribute
  | outOfRange
  | missingKey
  | notImplemented
  | tagReading
  | interrupt
  | general
  | invalidArgument
  | fileNotValid
  | unsupportedType
  | renameFailed
  deriving DecidableEq, Repr

namespace FailureKind

/-- The name of a kind in messages. -/
def title : FailureKind → String
  | system => "OSError"
  | permission => "PermissionError"
  | fileMissing => "FileNotFoundError"
  | fileExists => "FileExistsError"
  | noDirectory => "NotADirectoryError"
  | isDirectory => "IsADirectoryError"
  | unidentifiedImage => "UnidentifiedImageError"
  | badValue => "ValueError"
  | badText => "UnicodeError"
  | undecodable => "UnicodeDecodeError"
  | badSettings => "TOMLDecodeError"
  | runtime => "RuntimeError"
  | tooDeep => "RecursionError"
  | wrongType => "TypeError"
  | missingAttribute => "AttributeError"
  | outOfRange => "IndexError"
  | missingKey => "KeyError"
  | notImplemented => "NotImplementedError"
  | tagReading => "MutagenError"
  | interrupt => "KeyboardInterrupt"
  | general => "MediaRenamerError"
  | invalidArgument => "InvalidArgumentError"
  | fileNotValid => "FileNotValidError"
  | unsupportedType => "UnsupportedFileTypeError"
  | renameFailed => "RenameFailedError"

/-- Every kind. -/
def all : List FailureKind :=
  [system, permission, fileMissing, fileExists, noDirectory, isDirectory, unidentifiedImage,
    badValue, badText, undecodable, badSettings, runtime, tooDeep, wrongType, missingAttribute,
    outOfRange, missingKey, notImplemented, tagReading, interrupt, general, invalidArgument,
    fileNotValid, unsupportedType, renameFailed]

/-- Kinds that come from the operating system or from opening a file. -/
def isSystem : FailureKind → Bool
  | system | permission | fileMissing | fileExists | noDirectory | isDirectory
  | unidentifiedImage => true
  | _ => false

/-- Kinds that say that a value is not acceptable. -/
def isValue : FailureKind → Bool
  | badValue | badText | undecodable | badSettings => true
  | _ => false

/-- Kinds of this library. -/
def isRenaming : FailureKind → Bool
  | general | invalidArgument | fileNotValid | unsupportedType | renameFailed => true
  | _ => false

end FailureKind

/-- Why an operation did not come to its end. -/
inductive Failure where
  /-- The operating system refused; one or two paths are named. -/
  | system (code : SystemCode) (path : String) (target : Option String)
  /-- A path holds the character that no file system accepts. -/
  | nullInPath
  /-- A chain of links that never ends. -/
  | linkLoop (path : String)
  /-- A path names the home of a user who is not known. -/
  | unknownHome
  /-- No single character outside the illegal ones. -/
  | badSubstitute (shown : String)
  /-- Something else stands where a list of paths is expected. -/
  | notPaths (kindName : String)
  /-- Something else stands where a plan is expected. -/
  | notPlan (kindName : String)
  /-- Something else stands where a path is expected. -/
  | notPath (kindName : String)
  /-- Octets stand where a path is expected. -/
  | octetsAsPath
  /-- A plan that was handed out is not to be changed. -/
  | sealedPlan
  /-- No extractor is registered for the suffix. -/
  | unsupportedType (suffix : String)
  /-- An extension without characters cannot be registered. -/
  | emptyExtension
  /-- A text that is not read as a number. -/
  | number (flaw : Number.Flaw)
  /-- A number with too many digits to be written. -/
  | numberTooLong
  /-- A value with too many containers inside one another to be written. -/
  | tooDeep
  /-- A configuration file that is not UTF-8. -/
  | octets (flaw : Text.Utf8.Flaw)
  /-- A configuration file with a syntax error. The place and the nature of the error are not
  told. -/
  | badSettings
  /-- A value without length, where one is needed. -/
  | noLength (kindName : String)
  /-- A sequence, where only a text can be asked how it goes on. -/
  | noContinuation (kindName : String)
  /-- A value of another kind, where a text is looked for in a text. -/
  | notText (kindName : String)
  /-- A value without items, where one is taken. -/
  | noItems (kindName : String)
  /-- A value that is no text, where one is to be searched. -/
  | notSearchable (kindName : String)
  /-- A value that cannot be read a second time, where a copy is needed. -/
  | notCopied (kindName : String)
  /-- A value that may change, as the key of a mapping. -/
  | notKey (kindName : String)
  /-- A sequence that is too short. -/
  | outOfRange (kindName : String)
  /-- A mapping without a key. -/
  | missingKey (shown : String)
  /-- An audio extractor that does not say how its files are opened. -/
  | noOpener
  /-- An operation that an extractor does not have. -/
  | notImplemented
  /-- The tags of a file cannot be read. -/
  | tagReading (text : String)
  /-- The same, because the file is not there. -/
  | tagFileMissing (text : String)
  /-- Raised by a collaborator, in its own words. -/
  | raised (kind : FailureKind) (text : String)
  /-- Raised by a collaborator without words: whoever asks for them gets another failure. -/
  | wordless (kind : FailureKind) (instead : Failure)
  deriving DecidableEq, Repr

namespace Failure

/-- The kind of a failure. -/
def kind : Failure → FailureKind
  | system code _ _ =>
    match code with
    | .missing => .fileMissing
    | .alreadyThere => .fileExists
    | .noDirectory => .noDirectory
    | .isDirectory => .isDirectory
    | _ => .system
  | nullInPath | badSubstitute _ | emptyExtension | number _ | numberTooLong => .badValue
  | linkLoop _ | unknownHome => .runtime
  | tooDeep => .tooDeep
  | notPaths _ | notPlan _ => .invalidArgument
  | notPath _ | octetsAsPath | sealedPlan | noLength _ | notText _ | noItems _
  | notSearchable _ | notCopied _ | notKey _ => .wrongType
  | unsupportedType _ => .unsupportedType
  | octets _ => .undecodable
  | badSettings => .badSettings
  | noContinuation _ => .missingAttribute
  | outOfRange _ => .outOfRange
  | missingKey _ => .missingKey
  | noOpener | notImplemented => .notImplemented
  | tagReading _ => .tagReading
  | tagFileMissing _ => .fileMissing
  | raised kind _ => kind
  | wordless kind _ => kind

/-- Whether the user asked to stop. Such a failure is never absorbed on the way. -/
def isInterrupt (f : Failure) : Bool :=
  f.kind = .interrupt

/-- The nine characters that file systems reject in names. -/
def illegalText : String := "\\:?*<>|\"/"

/-- As much of a refused text as a message shows. -/
def excerpt (s : String) : String :=
  String.ofList (s.toList.take 200)

/-- The words about digits over the limit. -/
def limitText : String :=
  "Exceeds the limit (" ++ Number.text Number.digitLimit ++ " digits) for integer string conversion"

/-- The words about octets that are not UTF-8. -/
def octetText (flaw : Text.Utf8.Flaw) : String :=
  let place :=
    if flaw.size = 1 then
      "byte 0x" ++ String.ofList (Text.hexDigits 2 flaw.octet.toNat) ++ " in position " ++
        Number.text flaw.position
    else
      "bytes in position " ++ Number.text flaw.position ++ "-" ++
        Number.text (flaw.position + flaw.size - 1)
  let reason :=
    match flaw.defect with
    | .start => "invalid start byte"
    | .continuation => "invalid continuation byte"
    | .ended => "unexpected end of data"
  "'utf-8' codec can't decode " ++ place ++ ": " ++ reason

/-- The wording of a failure; one without words has an empty one. -/
def message : Failure → String
  | system code path target =>
    "[Errno " ++ Number.text code.number ++ "] " ++ code.description ++ ": " ++ Text.quoted path ++
      (match target with
      | some t => " -> " ++ Text.quoted t
      | none => "")
  | nullInPath => "embedded null byte"
  | linkLoop path => "Symlink loop from " ++ Text.quoted path
  | unknownHome => "Could not determine home directory."
  | badSubstitute shown =>
    "Substitution character must be one character outside " ++ Text.quoted illegalText ++
      "; got " ++ shown
  | notPaths kindName => "Expected a list of paths, got " ++ kindName
  | notPlan kindName => "Expected a mapping of old path to new filename, got " ++ kindName
  | notPath kindName => "expected str, bytes or os.PathLike object, not " ++ kindName
  | octetsAsPath =>
    "argument should be a str object or an os.PathLike object returning str, not <class 'bytes'>"
  | sealedPlan => "'mappingproxy' object does not support item assignment"
  | unsupportedType suffix =>
    "Unsupported file type: " ++ (if suffix = "" then "(none)" else suffix)
  | emptyExtension => "Extension must not be empty"
  | number (.malformed written) =>
    "invalid literal for int() with base 10: " ++ excerpt (Text.quoted written)
  | number (.tooLong digits) =>
    limitText ++ ": value has " ++ Number.text digits ++
      " digits; use sys.set_int_max_str_digits() to increase the limit"
  | numberTooLong => limitText ++ "; use sys.set_int_max_str_digits() to increase the limit"
  | tooDeep => "maximum recursion depth exceeded while getting the repr of an object"
  | octets flaw => octetText flaw
  | badSettings => "<toml>"
  | noLength kindName => "object of type '" ++ kindName ++ "' has no len()"
  | noContinuation kindName => "'" ++ kindName ++ "' object has no attribute 'startswith'"
  | notText kindName => "'in <string>' requires string as left operand, not " ++ kindName
  | noItems kindName => "'" ++ kindName ++ "' object is not subscriptable"
  | notSearchable kindName =>
    if kindName = "bytes" then "cannot use a string pattern on a bytes-like object"
    else "expected string or bytes-like object, got '" ++ kindName ++ "'"
  | notCopied kindName => "cannot pickle '" ++ kindName ++ "' object"
  | notKey kindName => "unhashable type: '" ++ kindName ++ "'"
  | outOfRange kindName =>
    (match kindName with
      | "str" => "string "
      | "bytes" => ""
      | _ => kindName ++ " ") ++ "index out of range"
  | missingKey shown => shown
  | noOpener => "FILE_CLASS must be defined in subclass"
  | notImplemented => ""
  | tagReading text => text
  | tagFileMissing text => text
  | raised _ text => text
  | wordless _ _ => ""

/-- Kind and wording in one text. -/
def text (f : Failure) : String :=
  f.kind.title ++ ": " ++ f.message

/-- The failure that whoever asks for the words of a failure gets in their place. -/
def instead? : Failure → Option Failure
  | wordless _ instead => some instead
  | _ => none

end Failure

end MediaNaming
