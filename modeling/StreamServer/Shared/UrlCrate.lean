import StreamServer.Shared.ByteText

set_option autoImplicit false

inductive UrlHost where
  | ipv4 (ip : BitVec 32)
  | ipv6 (ip : BitVec 128)
  | domain (name : Bytes)
deriving DecidableEq, Repr

/-- The operations of the `url` crate that are in use. `beforePath` and `afterQuery` are the offsets
of `Position::BeforePath` and `Position::AfterQuery` in the serialisation. -/
structure UrlCrate where
  Url : Type
  parse : Bytes → Option Url
  join : Url → Bytes → Option Url
  asStr : Url → Bytes
  scheme : Url → Bytes
  username : Url → Bytes
  password : Url → Option Bytes
  host : Url → Option UrlHost
  portOrKnownDefault : Url → Option (BitVec 16)
  path : Url → Bytes
  query : Url → Option Bytes
  beforePath : Url → Nat
  afterQuery : Url → Nat
  clearFragment : Url → Url
  clearUserInfo : Url → Url
  setPath : Url → Bytes → Url
  setQuery : Url → Option Bytes → Url

namespace UrlCrate

variable (crate : UrlCrate)

def isHttp (url : crate.Url) : Bool :=
  crate.scheme url == utf8 "http" || crate.scheme url == utf8 "https"

def hasUserInfo (url : crate.Url) : Bool :=
  !(crate.username url).isEmpty || (crate.password url).isSome

def sameOrigin (left right : crate.Url) : Bool :=
  crate.scheme left == crate.scheme right && crate.host left == crate.host right &&
    crate.portOrKnownDefault left == crate.portOrKnownDefault right

structure OriginEq (left right : crate.Url) : Prop where
  scheme : crate.scheme left = crate.scheme right
  host : crate.host left = crate.host right
  port : crate.portOrKnownDefault left = crate.portOrKnownDefault right

/-- A serialised URL parses to itself, a fragment is cleared once and for all, and no change of the
fragment, the path, the query or the user-info touches the origin. The user-info of a web URL can
always be cleared. -/
structure Lawful : Prop where
  parseSerialized : ∀ url, crate.parse (crate.asStr url) = some url
  serializedUtf8 : ∀ url, ByteText.IsUtf8 (crate.asStr url)
  clearFragmentAgain : ∀ url, crate.clearFragment (crate.clearFragment url) = crate.clearFragment url
  clearFragmentOrigin : ∀ url, crate.OriginEq (crate.clearFragment url) url
  setPathOrigin : ∀ url path, crate.OriginEq (crate.setPath url path) url
  setQueryOrigin : ∀ url query, crate.OriginEq (crate.setQuery url query) url
  clearFragmentUserInfo : ∀ url, crate.hasUserInfo (crate.clearFragment url) = crate.hasUserInfo url
  clearUserInfoOrigin : ∀ url, crate.OriginEq (crate.clearUserInfo url) url
  clearUserInfoEmpty : ∀ url, crate.isHttp url = true → (crate.host url).isSome = true →
    crate.hasUserInfo (crate.clearUserInfo url) = false

/-- The path and the query are percent-encoded ASCII, without control characters. -/
structure Printable : Prop where
  path : ∀ url, ∀ byte ∈ crate.path url, 32 ≤ byte ∧ byte ≤ 126
  query : ∀ url query, crate.query url = some query → ∀ byte ∈ query, 32 ≤ byte ∧ byte ≤ 126

variable {crate}

theorem OriginEq.refl (url : crate.Url) : crate.OriginEq url url := ⟨rfl, rfl, rfl⟩

theorem OriginEq.symm {left right : crate.Url} (same : crate.OriginEq left right) :
    crate.OriginEq right left :=
  ⟨same.scheme.symm, same.host.symm, same.port.symm⟩

theorem OriginEq.trans {left middle right : crate.Url} (first : crate.OriginEq left middle)
    (second : crate.OriginEq middle right) : crate.OriginEq left right :=
  ⟨first.scheme.trans second.scheme, first.host.trans second.host, first.port.trans second.port⟩

theorem sameOrigin_iff (left right : crate.Url) :
    crate.sameOrigin left right = true ↔ crate.OriginEq left right := by
  constructor
  · intro same
    simp only [sameOrigin, Bool.and_eq_true, beq_iff_eq] at same
    exact ⟨same.1.1, same.1.2, same.2⟩
  · intro same
    simp [sameOrigin, same.scheme, same.host, same.port]

theorem OriginEq.isHttp {left right : crate.Url} (same : crate.OriginEq left right) :
    crate.isHttp left = crate.isHttp right := by
  unfold UrlCrate.isHttp
  rw [same.scheme]

/-- The crate as far as it concerns one URL, which has no user-info, no query and no fragment. -/
def only (text scheme : Bytes) (host : UrlHost) (port : BitVec 16) (path : Bytes) : UrlCrate where
  Url := Unit
  parse bytes := if bytes = text then some () else none
  join _ reference := if reference = text then some () else none
  asStr _ := text
  scheme _ := scheme
  username _ := []
  password _ := none
  host _ := some host
  portOrKnownDefault _ := some port
  path _ := path
  query _ := none
  beforePath _ := text.length - path.length
  afterQuery _ := text.length
  clearFragment url := url
  clearUserInfo url := url
  setPath url _ := url
  setQuery url _ := url

theorem only_lawful {text : Bytes} (valid : ByteText.IsUtf8 text) (scheme : Bytes) (host : UrlHost)
    (port : BitVec 16) (path : Bytes) : (only text scheme host port path).Lawful where
  parseSerialized _ := if_pos rfl
  serializedUtf8 _ := valid
  clearFragmentAgain _ := rfl
  clearFragmentOrigin _ := ⟨rfl, rfl, rfl⟩
  setPathOrigin _ _ := ⟨rfl, rfl, rfl⟩
  setQueryOrigin _ _ := ⟨rfl, rfl, rfl⟩
  clearFragmentUserInfo _ := rfl
  clearUserInfoOrigin _ := ⟨rfl, rfl, rfl⟩
  clearUserInfoEmpty _ _ _ := rfl

def exampleHost : UrlCrate :=
  only (utf8 "http://example.com/") (utf8 "http") (.domain (utf8 "example.com")) 80 (utf8 "/")

open ByteText

def isPlainByte (byte : UInt8) : Bool := isAsciiAlphanumeric byte || (utf8 "-./@_").contains byte

def isPlainPath (path : Bytes) : Bool :=
  path.head? == some 47 && path.all isPlainByte &&
    (path.splitOn 47).all fun segment => segment != utf8 "." && segment != utf8 ".."

/-- A path and a query that the crate keeps as they are written. -/
structure PlainUrl where
  path : Bytes
  query : Option Bytes
  plainPath : isPlainPath path = true
  plainQuery : query.all (List.all · isPlainByte) = true
deriving DecidableEq, Repr

namespace PlainUrl

def ofParts (path : Bytes) (query : Option Bytes) : Option PlainUrl :=
  if plain : isPlainPath path = true ∧ query.all (List.all · isPlainByte) = true then
    some ⟨path, query, plain.1, plain.2⟩
  else none

def text (url : PlainUrl) : Bytes := url.path ++ (url.query.elim [] (63 :: ·))

def ofText (text : Bytes) : Option PlainUrl :=
  match splitOnce 63 text with
  | none => ofParts text none
  | some (path, query) => ofParts path (some query)

def root : PlainUrl := ⟨utf8 "/", none, by decide +kernel, rfl⟩

theorem isPlainByte_printable {byte : UInt8} (plain : isPlainByte byte = true) :
    32 ≤ byte ∧ byte ≤ 126 ∧ byte ≠ 63 := by
  revert byte
  apply forall_byte
  decide +kernel

theorem plain_of_mem_path (url : PlainUrl) {byte : UInt8} (member : byte ∈ url.path) :
    isPlainByte byte = true := by
  have plain := url.plainPath
  simp only [isPlainPath, Bool.and_eq_true, List.all_eq_true] at plain
  exact plain.1.2 byte member

theorem plain_of_mem_query (url : PlainUrl) {query : Bytes} (asked : url.query = some query)
    {byte : UInt8} (member : byte ∈ query) : isPlainByte byte = true := by
  have plain := url.plainQuery
  rw [asked, Option.all_some, List.all_eq_true] at plain
  exact plain byte member

theorem ofText_text (url : PlainUrl) : ofText url.text = some url := by
  have absent : 63 ∉ url.path := fun member =>
    (isPlainByte_printable (url.plain_of_mem_path member)).2.2 rfl
  obtain ⟨path, query, plainPath, plainQuery⟩ := url
  cases query with
  | none =>
    have whole : splitOnce 63 path = none := by
      cases found : splitOnce 63 path with
      | none => rfl
      | some parts =>
        obtain ⟨joined, -⟩ := splitOnce_some found
        exact absurd (joined ▸ List.mem_append_right _ List.mem_cons_self) absent
    simp only [ofText, text, Option.elim_none, List.append_nil, whole]
    exact dif_pos ⟨plainPath, plainQuery⟩
  | some query =>
    simp only [ofText, text, Option.elim_some, splitOnce_append absent]
    exact dif_pos ⟨plainPath, plainQuery⟩

theorem text_ascii (url : PlainUrl) : ∀ byte ∈ url.text, byte < 128 := by
  have small : ∀ byte : UInt8, isPlainByte byte = true → byte < 128 := fun byte plain =>
    UInt8.lt_of_le_of_lt (isPlainByte_printable plain).2.1 (by decide)
  intro byte member
  rcases List.mem_append.mp member with inPath | inQuery
  · exact small byte (url.plain_of_mem_path inPath)
  · cases asked : url.query with
    | none =>
      rw [asked] at inQuery
      cases inQuery
    | some query =>
      rw [asked, Option.elim_some, List.mem_cons] at inQuery
      rcases inQuery with rfl | inQuery
      · decide
      · exact small byte (url.plain_of_mem_query asked inQuery)

/-- A reference to another place of the same origin. -/
def join (base : PlainUrl) (reference : Bytes) : Option PlainUrl :=
  let (path, query) : Bytes × Option Bytes :=
    match splitOnce 63 reference with
    | none => (reference, none)
    | some (path, query) => (path, some query)
  match path with
  | [] => ofParts base.path (query <|> base.query)
  | 47 :: 47 :: _ => none
  | 47 :: _ => ofParts path query
  | _ => ofParts ((base.path.reverse.dropWhile (· != 47)).reverse ++ path) query

end PlainUrl

/-- The crate as far as it concerns the plain URLs of one origin. -/
def oneOrigin (origin : Bytes) (host : UrlHost) : UrlCrate where
  Url := PlainUrl
  parse bytes :=
    if origin.isPrefixOf bytes then PlainUrl.ofText (bytes.drop origin.length) else none
  join := PlainUrl.join
  asStr url := origin ++ url.text
  scheme _ := utf8 "http"
  username _ := []
  password _ := none
  host _ := some host
  portOrKnownDefault _ := some 80
  path url := url.path
  query url := url.query
  beforePath _ := origin.length
  afterQuery url := origin.length + url.text.length
  clearFragment url := url
  clearUserInfo url := url
  setPath url path := (PlainUrl.ofParts path url.query).getD url
  setQuery url query := (PlainUrl.ofParts url.path query).getD url

theorem oneOrigin_lawful {origin : Bytes} (valid : ByteText.IsUtf8 origin) (host : UrlHost) :
    (oneOrigin origin host).Lawful where
  parseSerialized url := by
    have starts : origin.isPrefixOf (origin ++ url.text) = true :=
      List.isPrefixOf_iff_prefix.mpr (List.prefix_append _ _)
    simp only [oneOrigin, starts, if_true, List.drop_left]
    exact url.ofText_text
  serializedUtf8 url := isUtf8_append valid (isUtf8_of_ascii url.text_ascii)
  clearFragmentAgain _ := rfl
  clearFragmentOrigin _ := ⟨rfl, rfl, rfl⟩
  setPathOrigin _ _ := ⟨rfl, rfl, rfl⟩
  setQueryOrigin _ _ := ⟨rfl, rfl, rfl⟩
  clearFragmentUserInfo _ := rfl
  clearUserInfoOrigin _ := ⟨rfl, rfl, rfl⟩
  clearUserInfoEmpty _ _ _ := rfl

theorem oneOrigin_printable (origin : Bytes) (host : UrlHost) :
    (oneOrigin origin host).Printable where
  path url _ member :=
    have printable := PlainUrl.isPlainByte_printable (url.plain_of_mem_path member)
    ⟨printable.1, printable.2.1⟩
  query url _ asked _ member :=
    have printable := PlainUrl.isPlainByte_printable (url.plain_of_mem_query asked member)
    ⟨printable.1, printable.2.1⟩

end UrlCrate
