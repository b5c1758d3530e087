/-
  What can go wrong, as causes. `Error.message` is the wording, `Error.isPrePush` tells the causes
  found before anything is written to a registry.
-/

namespace OciCompose

/-- Why a platform text is refused. -/
inductive PlatformFault where
  | empty
  | tooManySegments
  | emptySegment
deriving DecidableEq, Repr

def PlatformFault.message : PlatformFault → String
  | .empty => "empty platform"
  | .tooManySegments => "expected os[/arch[/variant]]"
  | .emptySegment => "empty segment"

/-- Why a reference, or the digest in it, is refused. -/
inductive ReferenceFault where
  | empty
  | missingRepository
  | badTag
  | badRepository
  | badDigest
  | digestLength (digits : Nat)
  | indexNotPinned
  | childrenNotPinned
deriving DecidableEq, Repr

def ReferenceFault.message : ReferenceFault → String
  | .empty => "empty reference"
  | .missingRepository => "missing repository"
  | .badTag => "invalid tag"
  | .badRepository => "invalid repository"
  | .badDigest => "digest must be algorithm:hex"
  | .digestLength n => "sha256 digest has " ++ n.repr ++ " hex chars, expected 64"
  | .indexNotPinned => "base is an index, so it must be pinned by digest"
  | .childrenNotPinned => "a base index must be referenced by digest"

/-- Why a glob pattern is malformed. -/
inductive GlobFault where
  | wildcards
  | recursive
  | range
deriving DecidableEq, Repr

def GlobFault.message : GlobFault → String
  | .wildcards => "wildcards are either regular `*` or recursive `**`"
  | .recursive => "recursive wildcards must form a single path component"
  | .range => "invalid range pattern"

/-- Why a configuration is refused. Texts shown in quotes are already quoted. -/
inductive ConfigFault where
  | noTag
  | twoSources (layer : Nat)
  | noSource (layer : Nat)
  | notOneSource
  | fileMode (layer mode : Nat)
  | size (text : String)
  | relativePrefix (text : String)
  | trailingSlash (text : String)
  | noDirPath
  | noFilePath
  | noContainerPath
  | rootIsFile (path : String)
  | notRegular (path : String)
  | bareExclusion (quoted : String)
  | badPattern (quoted : String) (position : Nat) (fault : GlobFault)
deriving DecidableEq, Repr

def ConfigFault.message : ConfigFault → String
  | .noTag => "tag is required"
  | .twoSources i => "layer " ++ i.repr ++ " sets both localDir and localFile"
  | .noSource i => "layer " ++ i.repr ++ " has no layer builder config"
  | .notOneSource => "layer needs exactly one of localDir and localFile"
  | .fileMode i m =>
    "layer " ++ i.repr ++ " fileMode " ++ String.ofList (Nat.toDigits 8 m) ++
      " is outside 0..=0777"
  | .size s => "maxSize only supports numeric bytes syntax at the moment, got: " ++ s
  | .relativePrefix s => "containerPath must have leading slash, got: " ++ s
  | .trailingSlash s => "containerPath should be a path without trailing slash, got: " ++ s
  | .noDirPath => "path must be specified (use . for CWD)"
  | .noFilePath => "localFile path must be specified"
  | .noContainerPath => "localFile layer requires containerPath"
  | .rootIsFile p =>
    "localDir configured for what looks like a file, use a localFile layer instead: " ++ p
  | .notRegular p => "localFile must be a regular file: " ++ p
  | .bareExclusion q => "illegal exclusion pattern: " ++ q
  | .badPattern q n f =>
    "invalid ignore pattern " ++ q ++ ": Pattern syntax error near position " ++ n.repr ++ ": " ++
      f.message

/-- What a limit of a layer source counts. -/
inductive Limited where
  | files
  | size
deriving DecidableEq, Repr

def Limited.name : Limited → String
  | .files => "number of files"
  | .size => "accumulated file size"

/-- The registry operation during which an error arose. -/
inductive Operation where
  | pull
  | upload
  | mount
  | push
  | auth
deriving DecidableEq, Repr

def Operation.name : Operation → String
  | .pull => "pull"
  | .upload => "upload"
  | .mount => "mount"
  | .push => "push"
  | .auth => "auth"

/-- A caller's defect. -/
inductive ContractFault where
  | resolvedTwice
  | notAPrefix (baseLayers : Nat)
  | alreadyComposed (position : Nat) (digest : String)
deriving DecidableEq, Repr

def ContractFault.message : ContractFault → String
  | .resolvedTwice => "base resolution may only be invoked once per appender"
  | .notAPrefix n => "result manifest does not start with the " ++ n.repr ++ " base layers"
  | .alreadyComposed i d => "index entry " ++ i.repr ++ " has digest " ++ d ++ " already"

/-- Why a path or a link target has no place in an archive. -/
inductive ArchiveFault where
  | absolute
  | parent
  | empty
  | nul
  | tooLong
deriving DecidableEq, Repr

def ArchiveFault.message : ArchiveFault → String
  | .absolute => "paths in archives must be relative"
  | .parent => "paths in archives must not have `..`"
  | .empty => "paths in archives must have at least one component"
  | .nul => "provided value contains a nul byte"
  | .tooLong => "provided value is too long"

/-- Failures of reading and writing files, and of forming an archive. -/
inductive IoFault where
  | notFound
  | permissionDenied
  | notADirectory
  | isADirectory
  | nameTooLong
  | tooManyLinks
  | nulInPath
  | notText
  /-- A path has no place in an archive; `written` is what was written of it. -/
  | archivePath (fault : ArchiveFault) (written : String)
  /-- A link target has no place in an archive; `path` is what was written of the path of the link. -/
  | archiveLink (fault : ArchiveFault) (path : String)
deriving DecidableEq, Repr

def IoFault.message : IoFault → String
  | .notFound => "No such file or directory (os error 2)"
  | .permissionDenied => "Permission denied (os error 13)"
  | .notADirectory => "Not a directory (os error 20)"
  | .isADirectory => "Is a directory (os error 21)"
  | .nameTooLong => "File name too long (os error 36)"
  | .tooManyLinks => "Too many levels of symbolic links (os error 40)"
  | .nulInPath => "file name contained an unexpected NUL byte"
  | .notText => "stream did not contain valid UTF-8"
  | .archivePath f s => f.message ++ " when setting path for " ++ s
  | .archiveLink f s => f.message ++ " when setting link name for " ++ s

/-- Why a text is no URL that can be requested. -/
inductive UrlFault where
  | noScheme
  | otherScheme
  | emptyHost
  | badDomain
  | badIpv4
  | badIpv6
  | badPort
deriving DecidableEq, Repr

def UrlFault.message : UrlFault → String
  | .noScheme => "relative URL without a base"
  | .otherScheme => "URL scheme is not allowed"
  | .emptyHost => "empty host"
  | .badDomain => "invalid international domain name"
  | .badIpv4 => "invalid IPv4 address"
  | .badIpv6 => "invalid IPv6 address"
  | .badPort => "invalid port number"

/-- Why a request could not be made, or its answer not be understood. -/
inductive HttpFault where
  | noConnection
  | badUrl (fault : UrlFault)
  /-- A URL that no request line can hold. -/
  | notRequestable (url : String)
  | badHeader
  | badBody
deriving DecidableEq, Repr

def HttpFault.message : HttpFault → String
  | .noConnection => "error sending request"
  | .badUrl _ | .badHeader => "builder error"
  | .notRequestable u => "builder error for url (" ++ u ++ ")"
  | .badBody => "error decoding response body"

inductive Error where
  | invalidPlatform (value : String) (fault : PlatformFault)
  | invalidConfig (fault : ConfigFault)
  | invalidReference (reference : String) (fault : ReferenceFault)
  | emptyLayer (source : String)
  | limitExceeded (what : Limited) (actual limit : Nat)
  | noPlatformSelected (base manifest : String)
  | unmatchedPlatforms (base : String) (selected configured : Nat) (unmatched : List String)
      (manifest : String)
  | unsupportedMediaType (mediaType reference : String)
  | nestedIndex (reference mediaType : String)
  | registry (operation : Operation) (reason : String)
  | contract (fault : ContractFault)
  | io (fault : IoFault)
  | json
  | walk (path : String) (fault : IoFault)
  | http (fault : HttpFault)
deriving DecidableEq, Repr

namespace Error

/-- The wording. For JSON it says no more than what failed. -/
def message : Error → String
  | invalidPlatform v f => "Invalid platform '" ++ v ++ "': " ++ f.message
  | invalidConfig f => "Invalid configuration: " ++ f.message
  | invalidReference r f => "Invalid reference '" ++ r ++ "': " ++ f.message
  | emptyLayer s => "Layer source " ++ s ++ " resulted in an empty layer"
  | limitExceeded w a l =>
    w.name ++ " " ++ a.repr ++ " exceeds max from layer config: " ++ l.repr
  | noPlatformSelected b m =>
    "Found no platform manifest to append to in index " ++ b ++ ": " ++ m
  | unmatchedPlatforms b s c u m =>
    "Found " ++ s.repr ++ " index manifests to append to in " ++ b ++ ", config has " ++ c.repr ++
      " platforms, none for " ++ String.intercalate ", " u ++ ": " ++ m
  | unsupportedMediaType t r => "Unsupported media type " ++ t ++ " for " ++ r
  | nestedIndex r t => "Unsupported nested index " ++ r ++ " type " ++ t
  | registry o r => "Registry error in " ++ o.name ++ ": " ++ r
  | contract f => "Contract violation: " ++ f.message
  | io f => f.message
  | json => "malformed JSON"
  | walk p f => "IO error for operation on " ++ p ++ ": " ++ f.message
  | http f => f.message

/-- What stands behind an error. -/
def cause? : Error → Option String
  | walk _ f => some f.message
  | http (.badUrl f) => some f.message
  | http (.notRequestable _) => some "Parsed Url is not a valid Uri"
  | http .badHeader => some "failed to parse header value"
  | _ => none

/-- Errors of configuration and selection, which arise before anything is written. -/
def isPrePush : Error → Bool
  | invalidPlatform .. | invalidConfig .. | invalidReference .. | emptyLayer .. | limitExceeded ..
  | noPlatformSelected .. | unmatchedPlatforms .. | unsupportedMediaType .. | nestedIndex .. => true
  | registry .. | contract .. | io .. | json | walk .. | http _ => false

end Error

end OciCompose
