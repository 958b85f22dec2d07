-- SUMMARY: Pages as sequences of tokens: tags, text, references and declarations, read with the tolerance that pages need.
import FeedPage.Html.Reference
import FeedPage.Text.Blank
import FeedPage.Text.Case

/-!
# Tokens of a page

A page is read token by token. What cannot be a token becomes text, so that almost every page can
be read; a page is rejected only for a marked section with an impossible name, and for a reference
whose number has more digits than integers may have.

A construct that the page does not finish (a tag without `>`, a comment without its end) is decided
in two rounds. The first round stops at it; the second, which knows that no more text follows,
takes it as text up to the next `>` and goes on. An ampersand that begins no reference ends the
second round: what follows it is text to the end.
-/

namespace FeedPage.Html

/-- An attribute: its name in lower case and its value, empty when none is written. -/
structure Attr where
  name : Text
  value : Text
  deriving DecidableEq, Repr

/-- A token of a page. -/
inductive Token where
  | text (s : Text)
  /-- A numbered character, by the digits as written (with the `x` of a hexadecimal number). -/
  | charRef (digits : Text)
  /-- A named character. -/
  | nameRef (name : Text)
  /-- A start tag; `closed` tells whether it ends in `/>`. -/
  | startTag (name : Text) (attrs : List Attr) (closed : Bool)
  | endTag (name : Text)
  | comment
  | instruction
  | doctype
  /-- A marked section with its content. -/
  | section_ (content : Text)
  deriving DecidableEq, Repr

/-- Why a page cannot be read. -/
inductive Rejection where
  /-- A marked section whose name is none of the known ones; the name as written, with the blanks
  behind it. -/
  | unknownSection (name : Text)
  /-- A marked section without a name; the page from there on. -/
  | namelessSection (source : Text)
  /-- A numeric reference with too many decimal digits. -/
  | numberTooLong (digits : Nat)
  deriving DecidableEq, Repr

/-- One step of reading: what is emitted, in which raw element reading goes on, and the rest. -/
inductive Step (s : Text) where
  | emit (out : List Token) (raw : Option Text) (rest : Text) (shorter : rest.length < s.length)
  /-- Reading stops here in this round. -/
  | halt (out : List Token) (rest : Text) (notLonger : rest.length ≤ s.length)
  | reject (why : Rejection)

namespace Token

/-! ## Tags -/

/-- Letters of ASCII. -/
def isLetter (c : Char) : Bool := c.isAlpha

/-- Characters of a tag name after its first letter. -/
def isNameChar (c : Char) : Bool :=
  !(c == '\t' || c == '\n' || c == '\r' || c == '\x0c' || c == ' ' || c == '/' || c == '>' ||
    c == '\x00')

/-- Skips blanks, and slashes that do not close the tag. -/
def skipSeparators : Text → Text
  | [] => []
  | c :: s =>
    if Text.isBlank c then skipSeparators s
    else if c = '/' ∧ s.head? ≠ some '>' then skipSeparators s
    else c :: s

theorem length_skipSeparators (s : Text) : (skipSeparators s).length ≤ s.length := by
  induction s with
  | nil => simp [skipSeparators]
  | cons c s ih => simp only [skipSeparators]; split <;> (try split) <;> simp <;> omega

/-- Characters of an attribute value without quotes. -/
def isBareChar (c : Char) : Bool := !(c == '>' || Text.isBlank c)

/-- The value behind the equals signs: quoted, or bare up to a blank or `>`. A quote that is never
closed leaves the value empty when blanks stand before it, and otherwise belongs to a bare value
that begins with the last equals sign. The first argument is the number of equals signs. -/
def value? (equals : Nat) (s : Text) : Option (Text × Text) :=
  match s.dropWhile Text.isBlank with
  | q :: t =>
    if q = '\'' ∨ q = '"' then
      match Text.cutChar? q t with
      | some found => some found
      | none =>
        if s.head?.any Text.isBlank then some ([], s)
        else if equals ≥ 2 then some ('=' :: s.takeWhile isBareChar, s.dropWhile isBareChar)
        else none
    else some (Text.run isBareChar (q :: t))
  | [] => some ([], [])

theorem length_value? {n : Nat} {s v rest : Text} (h : value? n s = some (v, rest)) :
    rest.length ≤ s.length := by
  have hd := Text.length_dropWhile_le Text.isBlank s
  have hs := Text.length_dropWhile_le isBareChar s
  unfold value? at h
  split at h
  · next q t heq =>
    have hq := Text.length_dropWhile_le isBareChar (q :: t)
    rw [heq] at hd
    split at h
    · split at h
      · next found hf =>
        obtain ⟨a, b⟩ := found
        have := Text.length_cutChar? hf
        simp at hd
        grind
      · grind
    · simp only [Text.run, Option.some.injEq, Prod.mk.injEq] at h
      rw [← h.2]
      omega
  · grind

/-- The value of an attribute behind its name: blanks, equals signs, and what they announce. -/
def assigned? (s : Text) : Option (Text × Text) :=
  let s' := s.dropWhile Text.isBlank
  let equals := s'.takeWhile (· == '=')
  if equals.isEmpty then none else value? equals.length (s'.dropWhile (· == '='))

theorem length_assigned? {s v rest : Text} (h : assigned? s = some (v, rest)) :
    rest.length ≤ s.length := by
  simp only [assigned?] at h
  split at h
  · cases h
  · have := length_value? h
    have := Text.length_dropWhile_le (· == '=') (s.dropWhile Text.isBlank)
    have := Text.length_dropWhile_le Text.isBlank s
    omega

/-- Characters of an attribute name after its first. -/
def isAttrChar (c : Char) : Bool := !(c == '/' || c == '=' || c == '>' || Text.isBlank c)

/-- The attribute at the front of `s`, its value as written, and the rest. Its name begins with any
character but a blank, `/` and `>`; the rest of the name holds no equals sign either. -/
def attr? (s : Text) : Option (Attr × Text) :=
  match s with
  | [] => none
  | c :: t =>
    if Text.isBlank c ∨ c = '/' ∨ c = '>' then none
    else
      let name := Text.lower (c :: t.takeWhile isAttrChar)
      match assigned? (t.dropWhile isAttrChar) with
      | some (v, rest) => some (⟨name, v⟩, rest)
      | none => some (⟨name, []⟩, t.dropWhile isAttrChar)

theorem length_attr? {s rest : Text} {a : Attr} (h : attr? s = some (a, rest)) :
    rest.length < s.length := by
  unfold attr? at h
  split at h
  · cases h
  · next c t =>
    have h1 := Text.length_dropWhile_le isAttrChar t
    split at h
    · cases h
    · split at h
      · next v r hv =>
        have h2 := length_assigned? hv
        simp only [Option.some.injEq, Prod.mk.injEq] at h
        rw [← h.2]; simp; omega
      · simp only [Option.some.injEq, Prod.mk.injEq] at h
        rw [← h.2]; simp; omega

/-- The attributes of a tag, their values as written, and the rest behind them. `free` tells whether
the character before `s` lets an attribute name begin: a blank, a slash or a quote. -/
def attrs (free : Bool) (s : Text) : List Attr × Text :=
  if free then
    match h : attr? s with
    | none => ([], s)
    | some (a, rest) =>
      have := length_attr? h
      have := length_skipSeparators rest
      let quoted := (s.take (s.length - rest.length)).getLast?.any fun c => c == '\'' || c == '"'
      let next := skipSeparators rest
      let found := attrs (next.length < rest.length || quoted) next
      (a :: found.1, found.2)
  else ([], s)
termination_by s.length

theorem length_attrs (free : Bool) (s : Text) : (attrs free s).2.length ≤ s.length := by
  fun_induction attrs free s with
  | case1 => simp
  | case2 =>
    rename_i next found ih
    simp only [found, next] at *
    omega
  | case3 => simp

/-- An attribute with the references in its value resolved. -/
def resolve (a : Attr) : Attr := { a with value := Reference.resolveAll a.value }

/-- A step that is taken unless a reference in the attributes has too many digits. -/
def unlessTooLong {s : Text} (written : List Attr) (step : Step s) : Step s :=
  match written.findSome? (Reference.tooLong? ·.value) with
  | some digits => .reject (.numberTooLong digits)
  | none => step

/-- Elements whose content is raw: no token but their end tag is recognised in it. -/
def isRaw (name : Text) : Bool := name = "script".toList || name = "style".toList

theorem length_lt_of_eq {s t : Text} {n : Nat} (h : s = t) (hn : s.length < n) : t.length < n :=
  h ▸ hn

/-- A start tag: `s` is the page from its `<` on, `t` from behind the `<`. -/
def startStep (s t : Text) (ht : t.length < s.length) : Step s :=
  let name := t.takeWhile isNameChar
  let s1 := t.dropWhile isNameChar
  have h1 : s1.length ≤ t.length := Text.length_dropWhile_le ..
  let s2 := skipSeparators s1
  have h2 : s2.length ≤ s1.length := length_skipSeparators _
  let loose := s2.length < s1.length ||
    name.getLast?.any fun c => c == '\'' || c == '"' || Text.isBlank c
  let found := attrs loose s2
  have h3 : found.2.length ≤ s2.length := length_attrs ..
  have h4 : found.2.length < s.length :=
    Nat.lt_of_le_of_lt (Nat.le_trans h3 (Nat.le_trans h2 h1)) ht
  let tag := Text.lower name
  match h : found.2 with
  | [] => .halt [] s (Nat.le_refl _)
  | '>' :: rest =>
    unlessTooLong found.1 <|
      .emit [startTag tag (found.1.map resolve) false] (if isRaw tag then some tag else none) rest
        (Nat.lt_trans (Nat.lt_succ_self _) (length_lt_of_eq h h4))
  | '/' :: '>' :: rest =>
    unlessTooLong found.1 <|
      .emit [startTag tag (found.1.map resolve) true] none rest
        (Nat.lt_trans (Nat.lt_succ_of_lt (Nat.lt_succ_self _)) (length_lt_of_eq h h4))
  | c :: rest =>
    if isLetter c || c == '=' || c == '/' then .halt [] s (Nat.le_refl _)
    else
      unlessTooLong found.1 <|
        .emit [text (s.take (s.length - (c :: rest).length))] none (c :: rest)
          (length_lt_of_eq h h4)

/-- Characters of the name of a plain end tag. -/
def isEndNameChar (c : Char) : Bool :=
  c.isAlphanum || c == '-' || c == '.' || c == ':' || c == '_'

/-- A plain end tag behind its `</`: blanks, a name, blanks, `>`. -/
def plainEnd? (t : Text) : Option (Text × Text) :=
  match t.dropWhile Text.isBlank with
  | c :: u =>
    if isLetter c then
      match (u.dropWhile isEndNameChar).dropWhile Text.isBlank with
      | '>' :: rest => some (Text.lower (c :: u.takeWhile isEndNameChar), rest)
      | _ => none
    else none
  | [] => none

theorem length_plainEnd? {t name rest : Text} (h : plainEnd? t = some (name, rest)) :
    rest.length < t.length := by
  unfold plainEnd? at h
  have h1 := Text.length_dropWhile_le Text.isBlank t
  split at h
  · next c u heq =>
    rw [heq] at h1
    split at h
    · have h2 := Text.length_dropWhile_le isEndNameChar u
      have h3 := Text.length_dropWhile_le Text.isBlank (u.dropWhile isEndNameChar)
      split at h
      · next r heq2 =>
        rw [heq2] at h3
        simp at h1 h3
        grind
      · cases h
    · cases h
  · cases h

/-- An end tag: `s` is the page from its `</` on, `t` from behind it. Whatever stands between the
name and the next `>` is ignored; without a name it is a comment, or nothing at all. -/
def endStep (s t : Text) (ht : t.length < s.length) : Step s :=
  match h : Text.cutChar? '>' t with
  | none => .halt [] s (Nat.le_refl _)
  | some (inside, rest) =>
    have h1 := Text.length_cutChar? h
    match h2 : plainEnd? t with
    | some (name, rest) => .emit [endTag name] none rest (by have := length_plainEnd? h2; omega)
    | none =>
      if t.head?.any isLetter then
        .emit [endTag (Text.lower (t.takeWhile isNameChar))] none rest (by omega)
      else if inside.isEmpty then .emit [] none rest (by omega)
      else .emit [comment] none rest (by omega)

/-! ## Declarations -/

/-- Blanks, then `>`. -/
def closeAngle? (s : Text) : Option Text :=
  match s.dropWhile Text.isBlank with
  | '>' :: rest => some rest
  | _ => none

theorem length_closeAngle? {s rest : Text} (h : closeAngle? s = some rest) :
    rest.length < s.length := by
  unfold closeAngle? at h
  have := Text.length_dropWhile_le Text.isBlank s
  split at h
  · next heq => rw [heq] at this; simp at this; grind
  · cases h

/-- The end of a comment: two hyphens, blanks, `>`. -/
def commentEnd? (s : Text) : Option Text := (Text.after? "--".toList s).bind closeAngle?

theorem shrinks_commentEnd? : Text.Recogniser.Shrinks commentEnd? := by
  intro s r h
  simp only [commentEnd?, Option.bind_eq_some_iff] at h
  obtain ⟨t, ht, hr⟩ := h
  have := Text.length_after? ht
  have := length_closeAngle? hr
  omega

/-- The end of a conditional section: `]`, blanks, `>`. -/
def conditionalEnd? (s : Text) : Option Text := (Text.after? "]".toList s).bind closeAngle?

theorem shrinks_conditionalEnd? : Text.Recogniser.Shrinks conditionalEnd? := by
  intro s r h
  simp only [conditionalEnd?, Option.bind_eq_some_iff] at h
  obtain ⟨t, ht, hr⟩ := h
  have := Text.length_after? ht
  have := length_closeAngle? hr
  omega

/-- The end of a marked section: `]`, blanks, `]`, blanks, `>`. -/
def sectionEnd? (s : Text) : Option Text :=
  (Text.after? "]".toList s).bind fun t => conditionalEnd? (t.dropWhile Text.isBlank)

theorem shrinks_sectionEnd? : Text.Recogniser.Shrinks sectionEnd? := by
  intro s r h
  simp only [sectionEnd?, Option.bind_eq_some_iff] at h
  obtain ⟨t, ht, hr⟩ := h
  have := Text.length_after? ht
  have := shrinks_conditionalEnd? hr
  have := Text.length_dropWhile_le Text.isBlank t
  omega

/-- Characters of the name of a declaration after its first letter. -/
def isDeclChar (c : Char) : Bool := c.isAlphanum || c == '-' || c == '_' || c == '.'

/-- The name at the front of a text, in lower case, and the name as written with the blanks behind
it. -/
def declName? (t : Text) : Option (Text × Text) :=
  match t with
  | c :: u =>
    if isLetter c then
      let name := c :: u.takeWhile isDeclChar
      some (Text.lowerAscii name, name ++ (u.dropWhile isDeclChar).takeWhile Text.isBlank)
    else none
  | [] => none

/-- Names of sections that end in `]]>`. -/
def sectionNames : List Text := ["temp", "cdata", "ignore", "include", "rcdata"].map String.toList

/-- Names of conditional sections, which end in `]>`. -/
def conditionalNames : List Text := ["if", "else", "endif"].map String.toList

/-- A marked section: `s` is the page from its `<![` on, `t` from behind it. -/
def sectionStep (s t : Text) (ht : t.length < s.length) : Step s :=
  if t.isEmpty then .halt [] s (Nat.le_refl _)
  else match declName? t with
    | none => .reject (.namelessSection s)
    | some (name, written) =>
      if written.length = t.length then .halt [] s (Nat.le_refl _)
      else if name ∈ sectionNames then
        match h : Text.search? sectionEnd? t with
        | some (content, rest) =>
          .emit [section_ content] none rest
            (by have := Text.length_search? shrinks_sectionEnd? h; omega)
        | none => .halt [] s (Nat.le_refl _)
      else if name ∈ conditionalNames then
        match h : Text.search? conditionalEnd? t with
        | some (content, rest) =>
          .emit [section_ content] none rest
            (by have := Text.length_search? shrinks_conditionalEnd? h; omega)
        | none => .halt [] s (Nat.le_refl _)
      else .reject (.unknownSection written)

/-- What ends at the next `>`: `s` is the page from the construct on, `t` what its opening leaves. -/
def angleStep (token : Token) (s t : Text) (ht : t.length < s.length) : Step s :=
  match h : Text.cutChar? '>' t with
  | some (_, rest) => .emit [token] none rest (by have := Text.length_cutChar? h; omega)
  | none => .halt [] s (Nat.le_refl _)

/-- A comment: `s` is the page from its `<!--` on, `t` from behind it. -/
def commentStep (s t : Text) (ht : t.length < s.length) : Step s :=
  match h : Text.search? commentEnd? t with
  | some (_, rest) =>
    .emit [comment] none rest (by have := Text.length_search? shrinks_commentEnd? h; omega)
  | none => .halt [] s (Nat.le_refl _)

/-! ## References -/

/-- The rest behind a reference: a semicolon belongs to it. -/
def dropSemicolon : Text → Text
  | ';' :: s => s
  | s => s

theorem length_dropSemicolon (s : Text) : (dropSemicolon s).length ≤ s.length := by
  unfold dropSemicolon; split <;> simp

/-- The digits of a numbered character behind `&#`, and the rest. Some character that is no
hexadecimal digit must follow. -/
def number? (t : Text) : Option (Text × Text) :=
  match t with
  | c :: u =>
    if c.isDigit then
      if (u.dropWhile Char.isDigit).head?.any (!Text.isHexDigit ·) then
        some (c :: u.takeWhile Char.isDigit, u.dropWhile Char.isDigit)
      else none
    else if c = 'x' ∨ c = 'X' then
      if (u.takeWhile Text.isHexDigit).isEmpty || (u.dropWhile Text.isHexDigit).isEmpty then none
      else some (c :: u.takeWhile Text.isHexDigit, u.dropWhile Text.isHexDigit)
    else none
  | [] => none

theorem length_number? {t digits rest : Text} (h : number? t = some (digits, rest)) :
    rest.length ≤ t.length := by
  unfold number? at h
  split at h
  · next c u =>
    have h1 := Text.length_dropWhile_le Char.isDigit u
    have h2 := Text.length_dropWhile_le Text.isHexDigit u
    grind
  · cases h

/-- Characters of the name of a reference after its first letter. -/
def isRefChar (c : Char) : Bool := c.isAlphanum || c == '-' || c == '.'

/-- The name of a reference behind `&`, and the rest, which begins with the character that ends the
name. At the end of the page a name reaches back to its last hyphen or point. -/
def refName? (t : Text) : Option (Text × Text) :=
  match t with
  | c :: u =>
    let more := u.takeWhile isRefChar
    let kept := more.length - (more.reverse.takeWhile Char.isAlphanum).length - 1
    if !isLetter c then none
    else if !(u.dropWhile isRefChar).isEmpty then some (c :: more, u.dropWhile isRefChar)
    else if more.all Char.isAlphanum then none
    else some (c :: more.take kept, more.drop kept)
  | [] => none

theorem length_refName? {t name rest : Text} (h : refName? t = some (name, rest)) :
    rest.length < t.length := by
  unfold refName? at h
  split at h
  · next c u =>
    have h1 := Text.length_dropWhile_le isRefChar u
    have h2 : (u.takeWhile isRefChar).length ≤ u.length := (List.takeWhile_prefix _).length_le
    grind
  · cases h

/-- A reference: `s` is the page from its `&` on, `t` from behind it. `final` tells whether this is
the second round. -/
def referenceStep (final : Bool) (s t : Text) (ht : t.length < s.length) : Step s :=
  match t with
  | [] => .halt [] s (Nat.le_refl _)
  | '#' :: u =>
    match h : number? u with
    | some (digits, rest) =>
      let decimals := (digits.takeWhile Char.isDigit).length
      if Text.maxDigits < decimals then .reject (.numberTooLong decimals)
      else
        .emit [charRef digits] none (dropSemicolon rest)
          (by have := length_number? h; have := length_dropSemicolon rest; simp at ht; omega)
    | none =>
      if ';' ∈ u then .halt [text "&#".toList] u (by simp at ht; omega)
      else .halt [] s (Nat.le_refl _)
  | c :: u =>
    match h : refName? (c :: u) with
    | some (name, rest) =>
      .emit [nameRef name] none (dropSemicolon rest)
        (by have := length_refName? h; have := length_dropSemicolon rest; omega)
    | none =>
      if isLetter c then
        if final && u.isEmpty then .halt [] (c :: u) (by omega) else .halt [] s (Nat.le_refl _)
      else .emit [text ['&']] none (c :: u) ht

/-! ## The whole page -/

/-- Characters of running text. -/
def isPlain (c : Char) : Bool := c != '<' && c != '&'

/-- The end tag of the raw element `name`. -/
def rawEnd? (name s : Text) : Option Text :=
  (Text.after? "</".toList s).bind fun t =>
    (Text.afterFolded? name (t.dropWhile Text.isBlank)).bind closeAngle?

/-- An unfinished construct in the second round: the part of it that becomes text, up to the next
`>`, else up to the next `<`, else its first character only. -/
def salvage (t : Text) : Text × Text :=
  match Text.cutChar? '>' t with
  | some (inside, rest) => (inside ++ ['>'], rest)
  | none => match Text.cutChar? '<' t with
    | some (inside, rest) => (inside, '<' :: rest)
    | none => ([], t)

theorem length_salvage (t : Text) : (salvage t).2.length ≤ t.length := by
  unfold salvage
  split
  · next h => have := Text.length_cutChar? h; simp; omega
  · split
    · next h => have := Text.length_cutChar? h; simp; omega
    · simp

/-- The construct at a `<`; `t` is the page behind it. -/
def markupStep (s t : Text) (ht : t.length < s.length) : Step s :=
  match t with
  | [] => .halt [] s (Nat.le_refl _)
  | '/' :: u => endStep s u (by simp at ht; omega)
  | '?' :: u => angleStep instruction s u (by simp at ht; omega)
  | '!' :: '-' :: '-' :: u => commentStep s u (by simp at ht; omega)
  | '!' :: '[' :: u => sectionStep s u (by simp at ht; omega)
  | '!' :: u =>
    match h : Text.afterFolded? "doctype".toList u with
    | some v =>
      angleStep doctype s v (by have := Text.length_afterFolded? h; simp at ht; omega)
    | none => angleStep comment s u (by simp at ht; omega)
  | c :: u =>
    if isLetter c then startStep s (c :: u) ht else .emit [text ['<']] none (c :: u) ht

/-- One step at the front of a page that is not empty. `raw` is the raw element that is open. -/
def step (final : Bool) (raw : Option Text) (s : Text) (hs : s ≠ []) : Step s :=
  match raw with
  | some name =>
    match Text.search? (rawEnd? name) s with
    | none => .halt [] s (Nat.le_refl _)
    | some (before, rest) =>
      if h' : rest.length < s.length then .emit [text before, endTag name] none rest h'
      else .halt [] s (Nat.le_refl _)
  | none =>
    match s, hs with
    | c :: t, _ =>
      if c = '<' then
        match markupStep (c :: t) t (Nat.lt_succ_self _) with
        | .halt out rest h =>
          if final && !t.isEmpty then
            .emit (out ++ [text (c :: (salvage t).1)]) none (salvage t).2
              (Nat.lt_succ_of_le (length_salvage t))
          else .halt out rest h
        | other => other
      else if c = '&' then referenceStep final (c :: t) t (Nat.lt_succ_self _)
      else
        .emit [text (c :: t.takeWhile isPlain)] none (t.dropWhile isPlain)
          (Nat.lt_succ_of_le (Text.length_dropWhile_le isPlain t))

/-- The tokens of a page from some place on, in the given round. -/
def read (final : Bool) (raw : Option Text) (s : Text) : Except Rejection (List Token) :=
  if hs : s = [] then if final then .ok [] else read true raw []
  else match step final raw s hs with
    | .reject why => .error why
    | .emit out raw rest _ => (read final raw rest).map (out ++ ·)
    | .halt out rest _ =>
      if final then .ok (out ++ if raw.isNone && !rest.isEmpty then [text rest] else [])
      else (read true raw rest).map (out ++ ·)
termination_by (if final then 0 else 1, s.length)
decreasing_by
  · simp_all [Prod.lex_def]
  · simp_all [Prod.lex_def]
  · simp_all [Prod.lex_def]

end Token

/-- The tokens of a page. -/
def tokens (page : Text) : Except Rejection (List Token) := Token.read false none page

end FeedPage.Html
