import StreamServer.Shared.ByteText
import StreamServer.Shared.Trimming

set_option autoImplicit false

namespace StreamServer.Proxy

open ByteText Trimming

section Scanner

def isOws (byte : UInt8) : Bool := byte == 32 || byte == 9

def trimAsciiOws (value : Bytes) : Bytes := trim isOws value

def isQuotedHeaderByte (byte : UInt8) : Bool := byte == 9 || (32 ≤ byte && byte ≤ 126) || 128 ≤ byte

def isHttpToken (byte : UInt8) : Bool :=
  isAsciiAlphanumeric byte || byte ∈ utf8 "!#$%&'*+-.^_`|~"

def backslash : UInt8 := 92

def quotation : UInt8 := 34

def quotedValueEnds : (escaped : Bool) → Bytes → Bool
  | _, [] => false
  | true, byte :: rest => if isQuotedHeaderByte byte = false then false else quotedValueEnds false rest
  | false, byte :: rest =>
      if byte = backslash then quotedValueEnds true rest
      else if byte = quotation then (trimAsciiOws rest).isEmpty
      else if isQuotedHeaderByte byte = false then false
      else quotedValueEnds false rest

def validQuotedHeaderValue : Bytes → Bool
  | [] => false
  | first :: rest => if rest = [] ∨ first ≠ quotation then false else quotedValueEnds false rest

def cacheControlArgument : Bytes → Option Unit
  | [] => none
  | opening :: rest =>
      if opening = quotation then
        if validQuotedHeaderValue (opening :: rest) then some () else none
      else if (opening :: rest).all isHttpToken then some ()
      else none

def cacheControlParameter : Bytes → Option Unit
  | [] => some ()
  | sign :: rest => if sign ≠ 61 then none else cacheControlArgument (trimAsciiOws rest)

def cacheControlDirective (value : Bytes) : Option Bool :=
  let value := trimAsciiOws value
  let nameLength := value.findIdx fun byte => isHttpToken byte = false
  if nameLength = 0 then none
  else do
    cacheControlParameter (trimAsciiOws (value.drop nameLength))
    some (eqIgnoreAsciiCase (value.take nameLength) (utf8 "no-transform"))

-- `segment` is what has been read since the last comma.
def cacheControlScan (quoted escaped noTransform : Bool) (segment : Bytes) : Bytes → Option Bool
  | [] =>
      if quoted ∨ escaped then none
      else (cacheControlDirective segment).map (noTransform || ·)
  | byte :: rest =>
      if quoted then
        if escaped then
          if isQuotedHeaderByte byte = false then none
          else cacheControlScan quoted false noTransform (segment ++ [byte]) rest
        else if byte = backslash then cacheControlScan quoted true noTransform (segment ++ [byte]) rest
        else if byte = quotation then cacheControlScan false escaped noTransform (segment ++ [byte]) rest
        else if isQuotedHeaderByte byte = false then none
        else cacheControlScan quoted escaped noTransform (segment ++ [byte]) rest
      else if byte = quotation then cacheControlScan true escaped noTransform (segment ++ [byte]) rest
      else if byte = 44 then do
        let directive ← cacheControlDirective segment
        cacheControlScan quoted escaped (noTransform || directive) [] rest
      else if 128 ≤ byte ∨ (byte < 32 ∧ ¬ isOws byte) then none
      else if byte = 127 then none
      else cacheControlScan quoted escaped noTransform (segment ++ [byte]) rest

def cacheControlHasNoTransform (value : Bytes) : Option Bool :=
  cacheControlScan false false false [] value

/-- The values are those of all the `Cache-Control` headers. -/
def cacheControlForbidsTransform (values : List Bytes) : Bool :=
  values.any fun value => (cacheControlHasNoTransform value).getD true

end Scanner

section Grammar

structure Token where
  text : Bytes
  nonempty : text ≠ []
  token : ∀ byte ∈ text, isHttpToken byte = true

inductive Quoted where
  | plain (byte : UInt8) (allowed : isQuotedHeaderByte byte = true) (notQuotation : byte ≠ quotation)
      (notBackslash : byte ≠ backslash)
  | pair (byte : UInt8) (allowed : isQuotedHeaderByte byte = true)

def Quoted.text : Quoted → Bytes
  | .plain byte _ _ _ => [byte]
  | .pair byte _ => [backslash, byte]

inductive Argument where
  | token (word : Token)
  | quoted (content : List Quoted)

def Argument.text : Argument → Bytes
  | .token word => word.text
  | .quoted content => quotation :: (content.flatMap Quoted.text ++ [quotation])

structure Directive where
  name : Token
  argument : Option Argument

def Directive.isNoTransform (directive : Directive) : Bool :=
  eqIgnoreAsciiCase directive.name.text (utf8 "no-transform")

def Blank (text : Bytes) : Prop := ∀ byte ∈ text, isOws byte = true

inductive Directive.Writes : Directive → Bytes → Prop where
  | bare {name : Token} {leading trailing : Bytes} (before : Blank leading) (after : Blank trailing) :
      Writes ⟨name, none⟩ (leading ++ name.text ++ trailing)
  | given {name : Token} {argument : Argument} {leading pre post trailing : Bytes}
      (before : Blank leading) (beforeSign : Blank pre) (afterSign : Blank post)
      (after : Blank trailing) :
      Writes ⟨name, some argument⟩
        (leading ++ name.text ++ pre ++ 61 :: (post ++ argument.text ++ trailing))

inductive WritesList : List Directive → Bytes → Prop where
  | one {directive : Directive} {text : Bytes} (written : directive.Writes text) :
      WritesList [directive] text
  | more {directive : Directive} {directives : List Directive} {text rest : Bytes}
      (written : directive.Writes text) (others : WritesList directives rest) :
      WritesList (directive :: directives) (text ++ 44 :: rest)

end Grammar

section Bytes

theorem token_not_ows {byte : UInt8} (token : isHttpToken byte = true) : isOws byte = false := by
  revert byte
  apply forall_byte
  decide +kernel

theorem token_scans {byte : UInt8} (token : isHttpToken byte = true) :
    byte ≠ quotation ∧ byte ≠ 44 ∧ byte < 127 ∧ 32 ≤ byte := by
  revert byte
  apply forall_byte
  decide +kernel

theorem ows_not_token {byte : UInt8} (blank : isOws byte = true) : isHttpToken byte = false := by
  revert byte
  apply forall_byte
  decide +kernel

theorem Token.tight (name : Token) : Tight isOws name.text :=
  ⟨fun byte first => token_not_ows (name.token byte (List.mem_of_mem_head? first)),
    fun byte last => token_not_ows (name.token byte (List.mem_of_mem_getLast? last))⟩

theorem Argument.text_ne_nil (argument : Argument) : argument.text ≠ [] := by
  cases argument with
  | token word => exact word.nonempty
  | quoted content => exact List.cons_ne_nil _ _

theorem Argument.tight (argument : Argument) : Tight isOws argument.text := by
  cases argument with
  | token word => exact word.tight
  | quoted content =>
    constructor
    · intro byte first
      cases first
      rfl
    · intro byte last
      rw [Argument.text, ← List.cons_append, List.getLast?_concat] at last
      cases last
      rfl

end Bytes

section Reading

-- A pending backslash belongs to the first character of what is to come.
theorem quotedValueEnds_written {escaped : Bool} {rest : Bytes}
    (ends : quotedValueEnds escaped rest = true) : ∃ (content : List Quoted) (trailing : Bytes),
      (if escaped then backslash :: rest else rest) =
        content.flatMap Quoted.text ++ quotation :: trailing ∧ Blank trailing := by
  induction rest generalizing escaped with
  | nil => cases escaped <;> cases ends
  | cons byte rest ih =>
    cases escaped with
    | true =>
      unfold quotedValueEnds at ends
      split at ends
      next => cases ends
      next allowed =>
        rw [Bool.not_eq_false] at allowed
        obtain ⟨content, trailing, joined, blank⟩ := ih ends
        refine ⟨.pair byte allowed :: content, trailing, ?_, blank⟩
        exact congrArg ([backslash, byte] ++ ·) joined
    | false =>
      unfold quotedValueEnds at ends
      split at ends
      next escape =>
        obtain ⟨content, trailing, joined, blank⟩ := ih ends
        exact ⟨content, trailing, escape ▸ joined, blank⟩
      next notBackslash =>
        split at ends
        next closes =>
          refine ⟨[], rest, by rw [closes]; rfl, ?_⟩
          exact trim_eq_nil_iff.mp (List.isEmpty_iff.mp ends)
        next notQuotation =>
          split at ends
          next => cases ends
          next allowed =>
            rw [Bool.not_eq_false] at allowed
            obtain ⟨content, trailing, joined, blank⟩ := ih ends
            refine ⟨.plain byte allowed notQuotation notBackslash :: content, trailing, ?_, blank⟩
            exact congrArg (byte :: ·) joined

theorem quotedValueEnds_text (content : List Quoted) {trailing : Bytes} (blank : Blank trailing) :
    quotedValueEnds false (content.flatMap Quoted.text ++ quotation :: trailing) = true := by
  induction content with
  | nil =>
    have closing : quotation ≠ backslash := by decide
    rw [List.flatMap_nil, List.nil_append, quotedValueEnds, if_neg closing, if_pos rfl]
    exact List.isEmpty_iff.mpr (trim_all blank)
  | cons first content ih =>
    rw [List.flatMap_cons, List.append_assoc]
    cases first with
    | plain byte allowed notQuotation notBackslash =>
      rw [Quoted.text, List.singleton_append, quotedValueEnds, if_neg notBackslash,
        if_neg notQuotation, if_neg (by simp [allowed])]
      exact ih
    | pair byte allowed =>
      rw [Quoted.text, List.cons_append, List.singleton_append, quotedValueEnds, if_pos rfl,
        quotedValueEnds, if_neg (by simp [allowed])]
      exact ih

theorem validQuotedHeaderValue_iff (value : Bytes) :
    validQuotedHeaderValue value = true ↔ ∃ (content : List Quoted) (trailing : Bytes),
      value = (Argument.quoted content).text ++ trailing ∧ Blank trailing := by
  constructor
  · intro valid
    cases value with
    | nil => cases valid
    | cons first rest =>
      rw [validQuotedHeaderValue] at valid
      split at valid
      next => cases valid
      next opens =>
        rw [not_or, not_ne_iff] at opens
        obtain ⟨content, trailing, joined, blank⟩ := quotedValueEnds_written valid
        refine ⟨content, trailing, ?_, blank⟩
        have whole : rest = content.flatMap Quoted.text ++ quotation :: trailing := joined
        rw [opens.2, whole, Argument.text, List.cons_append, List.append_assoc, List.singleton_append]
  · rintro ⟨content, trailing, rfl, blank⟩
    have ends := quotedValueEnds_text content blank
    rw [Argument.text, List.cons_append, List.append_assoc, List.singleton_append,
      validQuotedHeaderValue, if_neg (by simp)]
    exact ends

theorem cacheControlArgument_sound {parameter : Bytes}
    (accepted : cacheControlArgument parameter = some ()) :
    ∃ (argument : Argument) (trailing : Bytes), parameter = argument.text ++ trailing ∧ Blank trailing := by
  cases parameter with
  | nil => cases accepted
  | cons opening rest =>
    rw [cacheControlArgument] at accepted
    split at accepted
    next =>
      split at accepted
      next valid =>
        obtain ⟨content, trailing, written, blank⟩ := (validQuotedHeaderValue_iff _).mp valid
        exact ⟨.quoted content, trailing, written, blank⟩
      next => cases accepted
    next =>
      split at accepted
      next tokens =>
        refine ⟨.token ⟨opening :: rest, List.cons_ne_nil _ _, List.all_eq_true.mp tokens⟩, [], ?_, ?_⟩
        · rw [Argument.text, List.append_nil]
        · simp [Blank]
      next => cases accepted

theorem cacheControlArgument_text (argument : Argument) :
    cacheControlArgument argument.text = some () := by
  cases argument with
  | token word =>
    obtain ⟨first, rest, text⟩ := List.exists_cons_of_ne_nil word.nonempty
    have token : isHttpToken first = true :=
      word.token first (by rw [text]; exact List.mem_cons_self ..)
    have all : (first :: rest).all isHttpToken = true := by
      rw [List.all_eq_true, ← text]
      exact word.token
    rw [Argument.text, text, cacheControlArgument, if_neg (token_scans token).1, if_pos all]
  | quoted content =>
    have valid : validQuotedHeaderValue (Argument.quoted content).text = true :=
      (validQuotedHeaderValue_iff _).mpr ⟨content, [], by simp, by simp [Blank]⟩
    rw [Argument.text] at valid ⊢
    rw [cacheControlArgument, if_pos rfl, if_pos valid]

theorem cacheControlParameter_sound {remainder : Bytes}
    (accepted : cacheControlParameter remainder = some ()) :
    remainder = [] ∨ ∃ (argument : Argument) (post trailing : Bytes),
      remainder = 61 :: (post ++ argument.text ++ trailing) ∧ Blank post ∧ Blank trailing := by
  cases remainder with
  | nil => exact .inl rfl
  | cons sign rest =>
    right
    rw [cacheControlParameter] at accepted
    split at accepted
    next => cases accepted
    next equals =>
      obtain ⟨before, after, joined, beforeBlank, afterBlank⟩ := trim_between isOws rest
      obtain ⟨argument, trailing, written, blank⟩ := cacheControlArgument_sound accepted
      have core : trim isOws rest = argument.text ++ trailing := written
      refine ⟨argument, before, trailing ++ after, ?_, beforeBlank, ?_⟩
      · rw [not_ne_iff.mp equals, joined, core]
        simp
      · intro byte member
        exact (List.mem_append.mp member).elim (blank byte) (afterBlank byte)

theorem cacheControlParameter_written (argument : Argument) {post trailing : Bytes}
    (before : Blank post) (after : Blank trailing) :
    cacheControlParameter (61 :: (post ++ argument.text ++ trailing)) = some () := by
  have trimmed : trimAsciiOws (post ++ argument.text ++ trailing) = argument.text :=
    trim_surrounded argument.tight argument.text_ne_nil before after
  rw [cacheControlParameter, if_neg (by decide), trimmed, cacheControlArgument_text]

theorem findIdx_name (name : Token) (rest : Bytes)
    (stops : ∀ byte ∈ rest.head?, isHttpToken byte = false) :
    (name.text ++ rest).findIdx (fun byte => isHttpToken byte = false) = name.text.length := by
  have through : name.text.findIdx (fun byte => isHttpToken byte = false) = name.text.length :=
    List.findIdx_eq_length_of_false fun byte member => by rw [name.token byte member]; rfl
  have here : rest.findIdx (fun byte => isHttpToken byte = false) = 0 := by
    cases rest with
    | nil => rfl
    | cons byte rest => simp [List.findIdx_cons, stops byte rfl]
  rw [List.findIdx_append, through, if_neg (Nat.lt_irrefl _), here, Nat.zero_add]

theorem cacheControlDirective_sound {text : Bytes} {flag : Bool}
    (accepted : cacheControlDirective text = some flag) :
    ∃ directive : Directive, directive.Writes text ∧ directive.isNoTransform = flag := by
  unfold cacheControlDirective at accepted
  obtain ⟨leading, trailing, joined, before, after⟩ := trim_between isOws text
  let value := trimAsciiOws text
  let nameLength := value.findIdx fun byte => isHttpToken byte = false
  simp only at accepted
  split at accepted
  next => cases accepted
  next named =>
    obtain ⟨_, parameter, flagged⟩ := Option.bind_eq_some_iff.mp accepted
    have positive : 0 < nameLength := Nat.pos_of_ne_zero named
    have shorter : nameLength ≤ value.length := List.findIdx_le_length
    let name : Token := {
      text := value.take nameLength
      nonempty := by
        apply List.ne_nil_of_length_pos
        rw [List.length_take]
        omega
      token := fun byte member => by
        have other := List.false_of_mem_take_findIdx member
        simpa using other }
    have whole : text = leading ++ (name.text ++ value.drop nameLength) ++ trailing := by
      rw [List.take_append_drop]
      exact joined
    obtain ⟨pre, post, tail, preBlank, postBlank⟩ := trim_between isOws (value.drop nameLength)
    rcases cacheControlParameter_sound parameter with nothing | ⟨argument, sign, rest, given, signBlank, restBlank⟩
    · refine ⟨⟨name, none⟩, ?_, Option.some.inj flagged⟩
      have blank : Blank (value.drop nameLength ++ trailing) := by
        intro byte member
        exact (List.mem_append.mp member).elim (trim_eq_nil_iff.mp nothing byte) (after byte)
      rw [whole, ← List.append_assoc, List.append_assoc (leading ++ name.text)]
      exact .bare before blank
    · refine ⟨⟨name, some argument⟩, ?_, Option.some.inj flagged⟩
      have core : trim isOws (value.drop nameLength) = 61 :: (sign ++ argument.text ++ rest) := given
      have blank : Blank (rest ++ post ++ trailing) := by
        intro byte member
        simp only [List.mem_append] at member
        rcases member with (inner | middle) | outer
        · exact restBlank byte inner
        · exact postBlank byte middle
        · exact after byte outer
      have shape : text = leading ++ name.text ++ pre ++
          61 :: (sign ++ argument.text ++ (rest ++ post ++ trailing)) := by
        rw [whole, tail, core]
        simp
      rw [shape]
      exact .given before preBlank signBlank blank

theorem cacheControlDirective_written {directive : Directive} {text : Bytes}
    (written : directive.Writes text) :
    cacheControlDirective text = some directive.isNoTransform := by
  cases written with
  | @bare name leading trailing before after =>
    have trimmed : trimAsciiOws (leading ++ name.text ++ trailing) = name.text :=
      trim_surrounded name.tight name.nonempty before after
    have length := findIdx_name name [] (by simp)
    rw [List.append_nil] at length
    unfold cacheControlDirective
    simp only [trimmed, length, List.drop_length, List.take_length]
    rw [if_neg (by simpa using name.nonempty)]
    rfl
  | @given name argument leading pre post trailing before beforeSign afterSign after =>
    have signTight : Tight isOws [61] := by constructor <;> simp [isOws]
    have remainderTight : Tight isOws (61 :: (post ++ argument.text)) :=
      tight_between signTight (by simp) post argument.tight argument.text_ne_nil
    have coreTight : Tight isOws (name.text ++ pre ++ 61 :: (post ++ argument.text)) :=
      tight_between name.tight name.nonempty pre remainderTight (by simp)
    have trimmed : trimAsciiOws (leading ++ name.text ++ pre ++ 61 :: (post ++ argument.text ++ trailing)) =
        name.text ++ (pre ++ 61 :: (post ++ argument.text)) := by
      have surrounded := trim_surrounded coreTight (by simp) before after
      simpa [trimAsciiOws] using surrounded
    have remainder : trimAsciiOws (pre ++ 61 :: (post ++ argument.text)) =
        61 :: (post ++ argument.text ++ []) := by
      have nothing : ∀ byte ∈ ([] : Bytes), isOws byte = true := by simp
      have surrounded := trim_surrounded remainderTight (by simp) beforeSign nothing
      simpa [trimAsciiOws] using surrounded
    have stops : ∀ byte ∈ (pre ++ 61 :: (post ++ argument.text)).head?, isHttpToken byte = false := by
      intro byte first
      cases pre with
      | nil =>
        cases first
        decide
      | cons blank rest =>
        cases first
        exact ows_not_token (beforeSign _ (List.mem_cons_self ..))
    have length := findIdx_name name _ stops
    unfold cacheControlDirective
    simp only [trimmed, length, List.drop_left, List.take_left, remainder,
      cacheControlParameter_written argument afterSign (by simp [Blank] : Blank [])]
    rw [if_neg (by simpa using name.nonempty)]
    rfl

end Reading

section Scanned

theorem cacheControlScan_sound {quoted escaped noTransform : Bool} {segment rest : Bytes} {flag : Bool}
    (scanned : cacheControlScan quoted escaped noTransform segment rest = some flag) :
    ∃ directives, WritesList directives (segment ++ rest) ∧
      flag = (noTransform || directives.any Directive.isNoTransform) := by
  induction rest generalizing quoted escaped noTransform segment with
  | nil =>
    unfold cacheControlScan at scanned
    split at scanned
    next => cases scanned
    next =>
      obtain ⟨last, accepted, rfl⟩ := Option.map_eq_some_iff.mp scanned
      obtain ⟨directive, written, rfl⟩ := cacheControlDirective_sound accepted
      refine ⟨[directive], ?_, by simp⟩
      rw [List.append_nil]
      exact .one written
  | cons byte rest ih =>
    have further : ∀ {inside pending : Bool},
        cacheControlScan inside pending noTransform (segment ++ [byte]) rest = some flag →
        ∃ directives, WritesList directives (segment ++ byte :: rest) ∧
          flag = (noTransform || directives.any Directive.isNoTransform) := by
      intro inside pending later
      have extended := ih later
      rwa [List.append_assoc, List.singleton_append] at extended
    unfold cacheControlScan at scanned
    split at scanned
    next =>
      split at scanned
      next =>
        split at scanned
        next => cases scanned
        next => exact further scanned
      next =>
        split at scanned
        next => exact further scanned
        next =>
          split at scanned
          next => exact further scanned
          next =>
            split at scanned
            next => cases scanned
            next => exact further scanned
    next =>
      split at scanned
      next => exact further scanned
      next =>
        split at scanned
        next comma =>
          obtain ⟨first, accepted, later⟩ := Option.bind_eq_some_iff.mp scanned
          obtain ⟨directive, written, rfl⟩ := cacheControlDirective_sound accepted
          obtain ⟨directives, others, rfl⟩ := ih later
          refine ⟨directive :: directives, ?_, by simp [Bool.or_assoc]⟩
          rw [comma]
          exact .more written others
        next =>
          split at scanned
          next => cases scanned
          next =>
            split at scanned
            next => cases scanned
            next => exact further scanned

end Scanned

section Written

def Passes (text : Bytes) : Prop :=
  ∀ (noTransform : Bool) (segment rest : Bytes),
    cacheControlScan false false noTransform segment (text ++ rest) =
      cacheControlScan false false noTransform (segment ++ text) rest

theorem Passes.nil : Passes [] := fun noTransform segment rest => by simp

theorem Passes.append {left right : Bytes} (first : Passes left) (second : Passes right) :
    Passes (left ++ right) := by
  intro noTransform segment rest
  rw [List.append_assoc, first, second, List.append_assoc]

theorem Passes.of_bytes {text : Bytes} (single : ∀ byte ∈ text, Passes [byte]) : Passes text := by
  induction text with
  | nil => exact .nil
  | cons byte rest ih =>
    exact (single byte (List.mem_cons_self ..)).append
      (ih fun other member => single other (List.mem_cons_of_mem _ member))

theorem Passes.byte {byte : UInt8} (notQuotation : byte ≠ quotation) (notComma : byte ≠ 44)
    (low : byte < 127) (visible : 32 ≤ byte ∨ isOws byte = true) : Passes [byte] := by
  intro noTransform segment rest
  have printable : ¬ (128 ≤ byte ∨ (byte < 32 ∧ ¬ isOws byte = true)) := by
    rintro (high | ⟨control, other⟩)
    · exact absurd (UInt8.lt_of_lt_of_le low (by decide : (127 : UInt8) ≤ 128)) (UInt8.not_lt.mpr high)
    · exact visible.elim (fun shown => absurd control (UInt8.not_lt.mpr shown)) other
  have notDelete : byte ≠ 127 := by
    rintro rfl
    exact absurd low (by decide)
  rw [List.singleton_append, cacheControlScan, if_neg (by decide), if_neg notQuotation,
    if_neg notComma, if_neg printable, if_neg notDelete]

theorem Blank.passes {text : Bytes} (blank : Blank text) : Passes text := by
  refine .of_bytes fun byte member => ?_
  have kinds : byte = 32 ∨ byte = 9 := by simpa [isOws] using blank byte member
  have shown : isOws byte = true := blank byte member
  rcases kinds with rfl | rfl <;> exact .byte (by decide) (by decide) (by decide) (.inr shown)

theorem Token.passes (name : Token) : Passes name.text := by
  refine .of_bytes fun byte member => ?_
  obtain ⟨notQuotation, notComma, low, visible⟩ := token_scans (name.token byte member)
  exact .byte notQuotation notComma low (.inl visible)

theorem scan_quoted (content : List Quoted) (noTransform : Bool) (segment rest : Bytes) :
    cacheControlScan true false noTransform segment (content.flatMap Quoted.text ++ quotation :: rest) =
      cacheControlScan false false noTransform
        (segment ++ content.flatMap Quoted.text ++ [quotation]) rest := by
  induction content generalizing segment with
  | nil =>
    have closing : quotation ≠ backslash := by decide
    rw [List.flatMap_nil, List.nil_append, cacheControlScan, if_pos rfl, if_neg (by decide),
      if_neg closing, if_pos rfl, List.append_nil]
  | cons first content ih =>
    rw [List.flatMap_cons, List.append_assoc]
    cases first with
    | plain byte allowed notQuotation notBackslash =>
      rw [Quoted.text, List.singleton_append, cacheControlScan, if_pos rfl, if_neg (by decide),
        if_neg notBackslash, if_neg notQuotation, if_neg (by simp [allowed]), ih]
      simp
    | pair byte allowed =>
      rw [Quoted.text, List.cons_append, List.singleton_append, cacheControlScan, if_pos rfl,
        if_neg (by decide), if_pos rfl, cacheControlScan, if_pos rfl, if_pos rfl,
        if_neg (by simp [allowed]), ih]
      simp

theorem Argument.passes (argument : Argument) : Passes argument.text := by
  cases argument with
  | token word => exact word.passes
  | quoted content =>
    intro noTransform segment rest
    rw [Argument.text, List.cons_append, List.append_assoc, List.singleton_append, cacheControlScan,
      if_neg (by decide), if_pos rfl, scan_quoted]
    simp

theorem Directive.Writes.passes {directive : Directive} {text : Bytes}
    (written : directive.Writes text) : Passes text := by
  cases written with
  | bare before after => exact (before.passes.append (Token.passes _)).append after.passes
  | @given name argument _ _ _ _ before beforeSign afterSign after =>
    have sign : Passes [61] := .byte (by decide) (by decide) (by decide) (.inl (by decide))
    have argument := (afterSign.passes.append argument.passes).append after.passes
    exact ((before.passes.append (Token.passes _)).append beforeSign.passes).append
      (sign.append argument)

theorem cacheControlScan_written {directives : List Directive} {text : Bytes}
    (written : WritesList directives text) (noTransform : Bool) :
    cacheControlScan false false noTransform [] text =
      some (noTransform || directives.any Directive.isNoTransform) := by
  induction written generalizing noTransform with
  | @one directive text written =>
    have passed := written.passes noTransform [] []
    rw [List.append_nil, List.nil_append] at passed
    rw [passed, cacheControlScan, if_neg (by decide), cacheControlDirective_written written]
    simp
  | @more directive directives text rest written others ih =>
    have comma : (44 : UInt8) ≠ quotation := by decide
    rw [written.passes, List.nil_append, cacheControlScan, if_neg (by decide), if_neg comma,
      if_pos rfl, cacheControlDirective_written written]
    simp only [Option.bind_eq_bind, Option.bind_some, ih, List.any_cons, Bool.or_assoc]

theorem cacheControlHasNoTransform_iff (value : Bytes) (flag : Bool) :
    cacheControlHasNoTransform value = some flag ↔
      ∃ directives, WritesList directives value ∧ flag = directives.any Directive.isNoTransform := by
  constructor
  · intro scanned
    obtain ⟨directives, written, flagged⟩ := cacheControlScan_sound scanned
    exact ⟨directives, written, by simpa using flagged⟩
  · rintro ⟨directives, written, rfl⟩
    exact cacheControlScan_written written false

end Written

section Headers

theorem cacheControlForbidsTransform_eq_false_iff (values : List Bytes) :
    (cacheControlForbidsTransform values = false ↔ ∀ value ∈ values,
      ∃ directives, WritesList directives value ∧
        ∀ directive ∈ directives, directive.isNoTransform = false) ∧
    ∀ value ∈ values, ∀ directives, WritesList directives value →
      cacheControlHasNoTransform value = some (directives.any Directive.isNoTransform) := by
  constructor
  · unfold cacheControlForbidsTransform
    rw [List.any_eq_false]
    refine forall₂_congr fun value _ => ?_
    constructor
    · intro allowed
      cases scanned : cacheControlHasNoTransform value with
      | none =>
        rw [scanned] at allowed
        exact absurd rfl allowed
      | some flag =>
        rw [scanned, Option.getD_some, Bool.not_eq_true] at allowed
        subst allowed
        obtain ⟨directives, written, flagged⟩ := (cacheControlHasNoTransform_iff value false).mp scanned
        exact ⟨directives, written, fun directive member => by
          simpa using List.any_eq_false.mp flagged.symm directive member⟩
    · rintro ⟨directives, written, named⟩
      have flagged : directives.any Directive.isNoTransform = false :=
        List.any_eq_false.mpr fun directive member => by simp [named directive member]
      rw [(cacheControlHasNoTransform_iff value false).mpr ⟨directives, written, flagged.symm⟩]
      decide
  · intro value _ directives written
    exact (cacheControlHasNoTransform_iff value _).mpr ⟨directives, written, rfl⟩

example : cacheControlHasNoTransform (utf8 "a=\"b, no-transform\\\"\", public") = some false := by
  decide +kernel

end Headers

end StreamServer.Proxy
