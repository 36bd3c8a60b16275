/-!
# What a network rule is about

Content types, page options and the party check of network rules, with the names by which options
refer to them. Sets of content types and of page options are bit vectors: bit `i` says that the
member with position `i` is in the set.
-/

namespace FilterCompiler

/-! ## Content types -/

/-- What a request loads. -/
inductive ContentType where
  | image
  | stylesheet
  | script
  | media
  | xmlhttprequest
  | other
  | websocket
  | font
  | document
  | subdocument
  | ping
deriving DecidableEq, Repr

/-- A set of content types. -/
abbrev ContentTypes := BitVec 11

namespace ContentType

/-- The position of the type in sets. -/
def position : ContentType → Nat
  | image => 0
  | stylesheet => 1
  | script => 2
  | media => 3
  | xmlhttprequest => 4
  | other => 5
  | websocket => 6
  | font => 7
  | document => 8
  | subdocument => 9
  | ping => 10

/-- The set that holds this type only. -/
def only (t : ContentType) : ContentTypes := BitVec.twoPow 11 t.position

/-- The type that an option names. -/
def ofName? (name : String) : Option ContentType :=
  match name with
  | "script" => some script
  | "stylesheet" | "css" => some stylesheet
  | "subdocument" | "frame" => some subdocument
  | "image" => some image
  | "xmlhttprequest" | "xhr" => some xmlhttprequest
  | "media" => some media
  | "font" => some font
  | "websocket" => some websocket
  | "other" => some other
  | "ping" => some ping
  | _ => none

end ContentType

namespace ContentTypes

/-- The set of all content types. -/
def all : ContentTypes := BitVec.allOnes 11

/-- The set without members. -/
def none : ContentTypes := 0#11

/-- The type is in the set. -/
def has (s : ContentTypes) (t : ContentType) : Bool := s.getLsbD t.position

end ContentTypes

/-! ## Page options -/

/-- What an exception switches off on a page, or the kind of page that a rule is about. -/
inductive PageOption where
  | elemhide
  | generichide
  | genericblock
  | specifichide
  | jsinject
  | urlblock
  | content
  | document
  | popup
deriving DecidableEq, Repr

/-- A set of page options. -/
abbrev PageOptions := BitVec 9

namespace PageOption

/-- The position of the option in sets. -/
def position : PageOption → Nat
  | elemhide => 0
  | generichide => 1
  | genericblock => 2
  | specifichide => 3
  | jsinject => 4
  | urlblock => 5
  | content => 6
  | document => 7
  | popup => 8

/-- The set that holds this option only. -/
def only (o : PageOption) : PageOptions := BitVec.twoPow 9 o.position

/-- The page option that an option names. -/
def ofName? (name : String) : Option PageOption :=
  match name with
  | "elemhide" | "ehide" => some elemhide
  | "generichide" | "ghide" => some generichide
  | "genericblock" => some genericblock
  | "specifichide" | "shide" => some specifichide
  | "jsinject" => some jsinject
  | "urlblock" => some urlblock
  | "content" => some content
  | "document" | "doc" => some document
  | "popup" => some popup
  | _ => none

end PageOption

namespace PageOptions

/-- The set without members. -/
def none : PageOptions := 0#9

/-- The option is in the set. -/
def has (s : PageOptions) (o : PageOption) : Bool := s.getLsbD o.position

/-- One of the given options is in the set. -/
def hasAny (s : PageOptions) (os : List PageOption) : Bool := os.any s.has

end PageOptions

/-- The options that only an exception may carry. -/
def exceptionOnly : List PageOption :=
  [.jsinject, .elemhide, .content, .urlblock, .genericblock, .generichide, .specifichide]

/-- The options that make a rule one about whole documents. -/
def documentLevel : List PageOption := .document :: .popup :: exceptionOnly

/-! ## Parties -/

/-- Whether a request goes to the site of the page or to another site. -/
inductive Party where
  | first
  | third
deriving DecidableEq, Repr

/-- The party that an option names. -/
def Party.ofName? (name : String) : Option Party :=
  match name with
  | "third-party" | "~first-party" | "3p" | "~1p" => some third
  | "~third-party" | "first-party" | "1p" | "~3p" => some first
  | _ => none

end FilterCompiler
