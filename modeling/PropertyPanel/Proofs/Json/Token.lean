/-
This file proves that the compact text of a JSON value is split into the tokens of the value.
-/

import Mathlib.Data.List.TakeWhile
import PropertyPanel.Json.Token
import PropertyPanel.Json.Writer
import PropertyPanel.Proofs.Number.Integer

namespace PropertyPanel.Json

mutual

/-- The tokens of the compact text of a value. -/
def tokens : Json → List Token
  | null => [.atom .null]
  | flag value => [.atom (.flag value)]
  | number value => [.atom (.number value)]
  | text value => [.atom (.text value)]
  | list items => .openList :: itemTokens items ++ [.closeList]
  | object members => .openObject :: memberTokens members ++ [.closeObject]

def itemTokens : List Json → List Token
  | [] => []
  | [item] => tokens item
  | item :: rest => tokens item ++ .comma :: itemTokens rest

def memberTokens : List (String × Json) → List Token
  | [] => []
  | [(name, value)] => .atom (.text name) :: .colon :: tokens value
  | (name, value) :: rest =>
      .atom (.text name) :: .colon :: tokens value ++ .comma :: memberTokens rest

end

mutual

/-- All numbers of the value are integers of 64 bits, with a sign or without. -/
def Integral : Json → Prop
  | null | flag _ | text _ => True
  | number (.integer value) => -(Nat.pow 2 63 : Int) ≤ value ∧ value < Nat.pow 2 64
  | number (.real _) => False
  | list items => IntegralItems items
  | object members => IntegralMembers members

def IntegralItems : List Json → Prop
  | [] => True
  | item :: rest => Integral item ∧ IntegralItems rest

def IntegralMembers : List (String × Json) → Prop
  | [] => True
  | (_, value) :: rest => Integral value ∧ IntegralMembers rest

end

theorem integralItems_iff {items : List Json} :
    IntegralItems items ↔ ∀ item ∈ items, Integral item := by
  induction items with
  | nil => simp [IntegralItems]
  | cons item rest ih => rw [IntegralItems, ih, List.forall_mem_cons]

theorem integralMembers_iff {members : List (String × Json)} :
    IntegralMembers members ↔ ∀ member ∈ members, Integral member.2 := by
  induction members with
  | nil => simp [IntegralMembers]
  | cons member rest ih => rw [IntegralMembers, ih, List.forall_mem_cons]

namespace Token

/-- A word that a text cannot go on with ends there. -/
def Ends (rest : List Char) : Prop := ∀ next ∈ rest.head?, isWordPart next = false

theorem enter?_wordPart {character : Char} (part : isWordPart character = true) :
    enter? character = some (.word [character], []) := by
  have solid : isBlank character = false := by
    rw [← Bool.not_eq_true]
    intro blank
    simp only [isBlank, Bool.or_eq_true, decide_eq_true_eq] at blank
    rcases blank with ((same | same) | same) | same <;> subst same <;> cases part
  have unquoted : character ≠ '"' := by
    rintro rfl
    cases part
  simp [enter?, solid, unquoted, part]

/-- A word that has begun is one token if no word part follows it. -/
theorem scanFrom?_begun {begun word rest : List Char} {token : Token}
    (parts : ∀ character ∈ word, isWordPart character = true) (ends : Ends rest)
    (known : word? (begun.reverse ++ word) = some token) (reversed : List Token) :
    scanFrom? (.word begun) reversed (word ++ rest) =
      scanFrom? .between (token :: reversed) rest := by
  induction word generalizing begun with
  | nil =>
      rw [List.append_nil] at known
      cases rest with
      | nil => simp [scanFrom?, known]
      | cons next rest =>
          have apart : isWordPart next = false := ends next rfl
          simp only [List.nil_append, scanFrom?, step?, apart, known, Bool.false_eq_true, if_false]
          cases enter? next <;> simp
  | cons character word ih =>
      have part := parts character List.mem_cons_self
      rw [List.cons_append, scanFrom?, step?, if_pos part, Option.bind_some]
      refine ih (fun other inside => parts other (List.mem_cons_of_mem _ inside)) ?_
      rw [List.reverse_cons, List.append_assoc]
      exact known

/-- A word is scanned as the token that it stands for. -/
theorem scanFrom?_word {word rest : List Char} {token : Token} (present : word ≠ [])
    (parts : ∀ character ∈ word, isWordPart character = true) (ends : Ends rest)
    (known : word? word = some token) (reversed : List Token) :
    scanFrom? .between reversed (word ++ rest) = scanFrom? .between (token :: reversed) rest := by
  cases word with
  | nil => exact absurd rfl present
  | cons first word =>
      have begins : step? .between first = some (.word [first], []) :=
        enter?_wordPart (parts first List.mem_cons_self)
      have whole : word? ([first].reverse ++ word) = some token := known
      rw [List.cons_append, scanFrom?, begins, Option.bind_some]
      exact scanFrom?_begun (fun other inside => parts other (List.mem_cons_of_mem _ inside)) ends
        whole reversed

/-- A hexadecimal digit is read as the value that it was written for. -/
theorem hexValue?_hexDigit : ∀ value < 16, hexValue? (hexDigit value) = some value := by
  decide

/-- An escaped character is read as the character. -/
theorem scanFrom?_escape (quotation : Quotation) (character : Char) (reversed : List Token)
    (rest : List Char) :
    scanFrom? (.quoted quotation) reversed (escape character ++ rest) =
      scanFrom? (.quoted (quotation.push character)) reversed rest := by
  unfold escape
  split
  · rfl
  · rfl
  · rfl
  · rfl
  · rfl
  · rename_i quote backslash line carriage tab
    split
    · rename_i code
      have same : character = Char.ofNat 8 := by rw [← code, Char.ofNat_toNat]
      subst same
      rfl
    · split
      · rename_i code
        have same : character = Char.ofNat 12 := by rw [← code, Char.ofNat_toNat]
        subst same
        rfl
      · split
        · rename_i control
          have high := hexValue?_hexDigit (character.toNat / 16) (by omega)
          have low := hexValue?_hexDigit (character.toNat % 16) (by omega)
          have zero : hexValue? '0' = some 0 := rfl
          have code : 16 * (character.toNat / 16) + character.toNat % 16 = character.toNat := by
            omega
          have plain : quotation.pushUnit character.toNat = quotation.push character := by
            rw [Quotation.pushUnit, Char.ofNat_toNat]
            have above : isHighSurrogate character.toNat = false := by
              simp [isHighSurrogate]
              omega
            have below : isLowSurrogate character.toNat = false := by
              simp [isLowSurrogate]
              omega
            simp [above, below]
          simp [scanFrom?, step?, zero, high, low, code, plain]
        · rename_i printable
          have unquoted : character ≠ '"' := fun same => quote same
          have unescaped : character ≠ '\\' := fun same => backslash same
          simp [scanFrom?, step?, unquoted, unescaped, printable]

theorem scanFrom?_quoted (quotation : Quotation) (whole : quotation.half = none)
    (sound : quotation.broken = false) (value : List Char) (reversed : List Token)
    (rest : List Char) :
    scanFrom? (.quoted quotation) reversed (value.flatMap escape ++ '"' :: rest) =
      scanFrom? .between
        (atom (.text (String.ofList (quotation.reversed.reverse ++ value))) :: reversed) rest := by
  induction value generalizing quotation with
  | nil => simp [scanFrom?, step?, Quotation.finish, whole, sound]
  | cons character value ih =>
      rw [List.flatMap_cons, List.append_assoc, scanFrom?_escape,
        ih (quotation.push character) rfl (by simp [Quotation.push, whole, sound])]
      simp [Quotation.push]

/-- A quoted text is scanned as the text. -/
theorem scanFrom?_quote (value : String) (reversed : List Token) (rest : List Char) :
    scanFrom? .between reversed ((quote value).toList ++ rest) =
      scanFrom? .between (atom (.text value) :: reversed) rest := by
  have quoted := scanFrom?_quoted .start rfl rfl value.toList reversed rest
  simp only [Quotation.start, List.reverse_nil, List.nil_append, String.ofList_toList] at quoted
  rw [← quoted]
  simp [quote, scanFrom?, step?, enter?, isBlank, Quotation.start]

section Numbers

variable (size : Nat)

/-- A minus sign in front of a run of digits is the sign of the number. -/
theorem spelling?_toDigits (negative : Bool) :
    spelling? (if negative then '-' :: Nat.toDigits 10 size else Nat.toDigits 10 size) =
      some (⟨negative, Nat.toDigits 10 size, [], 0⟩, true) := by
  have digits : ∀ digit ∈ Nat.toDigits 10 size, digit.isDigit = true :=
    List.all_eq_true.mp (Integer.isDigit_toDigits size)
  have whole : (Nat.toDigits 10 size).takeWhile Char.isDigit = Nat.toDigits 10 size :=
    List.takeWhile_eq_self_iff.mpr digits
  have rest : (Nat.toDigits 10 size).dropWhile Char.isDigit = [] :=
    List.dropWhile_eq_nil_iff.mpr digits
  have present : (Nat.toDigits 10 size).isEmpty = false :=
    List.isEmpty_eq_false_iff.mpr Nat.toDigits_ne_nil
  have leading : ((Nat.toDigits 10 size).head? = some '0' ∧ (Nat.toDigits 10 size).length ≠ 1) ↔
      False := by
    rw [iff_false]
    rintro ⟨zero, long⟩
    cases Nat.eq_zero_or_pos size with
    | inl empty => exact long (by rw [empty]; rfl)
    | inr positive => exact Integer.head?_toDigits_positive positive zero
  have unsigned := (Integer.head?_toDigits size).1
  cases negative with
  | false =>
      simp [spelling?, unsigned, whole, rest, present, exponent?, leading]
  | true =>
      simp [spelling?, whole, rest, present, exponent?, leading]

end Numbers

theorem number?_toString {value : Int}
    (fits : -(Nat.pow 2 63 : Int) ≤ value ∧ value < Nat.pow 2 64) :
    number? (toString value).toList = some (.number (.integer value)) := by
  have range : -9223372036854775808 ≤ value ∧ value < 18446744073709551616 := fits
  rw [Integer.toList_toString]
  by_cases positive : 0 ≤ value
  · have spelled := spelling?_toDigits value.toNat false
    have small : value.toNat < Nat.pow 2 64 := by
      change value.toNat < 18446744073709551616
      omega
    have same : (value.toNat : Int) = value := Int.toNat_of_nonneg positive
    simp only [Bool.false_eq_true, if_false] at spelled
    simp [number?, positive, spelled, Integer.digitsValue_toDigits, small, same]
  · have spelled := spelling?_toDigits (-value).toNat true
    have small : 0 < (-value).toNat ∧ (-value).toNat ≤ Nat.pow 2 63 := by
      change 0 < (-value).toNat ∧ (-value).toNat ≤ 9223372036854775808
      omega
    simp only [if_true] at spelled
    simp [number?, positive, spelled, Integer.digitsValue_toDigits, small]
    omega

/-- The decimal text of an integer of 64 bits is the word of the integer. -/
theorem word?_toString {value : Int}
    (fits : -(Nat.pow 2 63 : Int) ≤ value ∧ value < Nat.pow 2 64) :
    word? (toString value).toList = some (atom (.number (.integer value))) := by
  have known := number?_toString fits
  -- The other words are no numbers.
  have other (word : List Char) (unknown : number? word = none) :
      String.ofList (toString value).toList ≠ String.ofList word := by
    intro same
    rw [String.ofList_injective same, unknown] at known
    cases known
  unfold word?
  split
  · rename_i same
    exact absurd same (other "null".toList (by decide))
  · rename_i same
    exact absurd same (other "true".toList (by decide))
  · rename_i same
    exact absurd same (other "false".toList (by decide))
  · rw [known]
    rfl

theorem isWordPart_toString (value : Int) :
    ∀ character ∈ (toString value).toList, isWordPart character = true := by
  intro character inside
  have digits (size : Nat) (listed : character ∈ Nat.toDigits 10 size) :
      isWordPart character = true := by
    have digit := List.all_eq_true.mp (Integer.isDigit_toDigits size) character listed
    simp [isWordPart, Char.isAlphanum, digit]
  rw [Integer.toList_toString] at inside
  split at inside
  · exact digits _ inside
  · cases List.mem_cons.mp inside with
    | inl sign => rw [sign]; rfl
    | inr listed => exact digits _ listed

theorem ends_punctuation (character : Char) (apart : isWordPart character = false)
    (rest : List Char) : Ends (character :: rest) := by
  rintro next ⟨⟩
  exact apart

/-- A mark of punctuation is one token. -/
theorem scanFrom?_punctuation (character : Char) {token : Token}
    (known : punctuation? character = some token) (reversed : List Token) (rest : List Char) :
    scanFrom? .between reversed (character :: rest) =
      scanFrom? .between (token :: reversed) rest := by
  unfold punctuation? at known
  split at known <;> cases known <;> rfl

/-- The name of a member is scanned as a text before a colon. -/
theorem scanFrom?_name (name : String) (reversed : List Token) (rest : List Char) :
    scanFrom? .between reversed ((quote name).toList ++ ':' :: rest) =
      scanFrom? .between (.colon :: .atom (.text name) :: reversed) rest :=
  (scanFrom?_quote name reversed _).trans (scanFrom?_punctuation ':' rfl _ rest)

end Token

mutual

/-- The compact text of a value is scanned as the tokens of the value. -/
theorem scanFrom?_compact (value : Json) (integral : Integral value) {rest : List Char}
    (ends : Token.Ends rest) (reversed : List Token) :
    Token.scanFrom? .between reversed (value.compact.toList ++ rest) =
      Token.scanFrom? .between (value.tokens.reverse ++ reversed) rest := by
  cases value with
  | null => exact Token.scanFrom?_word (by decide) (List.all_eq_true.mp rfl) ends rfl reversed
  | flag value =>
      cases value with
      | true => exact Token.scanFrom?_word (by decide) (List.all_eq_true.mp rfl) ends rfl reversed
      | false => exact Token.scanFrom?_word (by decide) (List.all_eq_true.mp rfl) ends rfl reversed
  | number value =>
      cases value with
      | real value => exact integral.elim
      | integer value =>
          have present : (toString value).toList ≠ [] := by
            rw [Ne, String.toList_eq_nil_iff, ← String.isEmpty_iff, Integer.isEmpty_toString]
            exact Bool.false_ne_true
          exact Token.scanFrom?_word present (Token.isWordPart_toString value) ends
            (Token.word?_toString integral) reversed
  | text value => exact Token.scanFrom?_quote value reversed rest
  | list items =>
      have inner := scanFrom?_compactItems items integral
        (Token.ends_punctuation ']' rfl rest) (.openList :: reversed)
      have opened := Token.scanFrom?_punctuation '[' rfl reversed
        ((compactItems items).toList ++ ']' :: rest)
      have closed := Token.scanFrom?_punctuation ']' rfl
        ((itemTokens items).reverse ++ .openList :: reversed) rest
      simpa [compact, tokens] using opened.trans (inner.trans closed)
  | object members =>
      have inner := scanFrom?_compactMembers members integral
        (Token.ends_punctuation '\x7d' rfl rest) (.openObject :: reversed)
      have opened := Token.scanFrom?_punctuation '\x7b' rfl reversed
        ((compactMembers members).toList ++ '\x7d' :: rest)
      have closed := Token.scanFrom?_punctuation '\x7d' rfl
        ((memberTokens members).reverse ++ .openObject :: reversed) rest
      simpa [compact, tokens] using opened.trans (inner.trans closed)

theorem scanFrom?_compactItems (items : List Json) (integral : IntegralItems items)
    {rest : List Char} (ends : Token.Ends rest) (reversed : List Token) :
    Token.scanFrom? .between reversed ((compactItems items).toList ++ rest) =
      Token.scanFrom? .between ((itemTokens items).reverse ++ reversed) rest := by
  match items with
  | [] => rfl
  | [item] => exact scanFrom?_compact item integral.1 ends reversed
  | item :: second :: others =>
      have first := scanFrom?_compact item integral.1
        (Token.ends_punctuation ',' rfl
          ((compactItems (second :: others)).toList ++ rest)) reversed
      have comma := Token.scanFrom?_punctuation ',' rfl
        (item.tokens.reverse ++ reversed) ((compactItems (second :: others)).toList ++ rest)
      have later := scanFrom?_compactItems (second :: others) integral.2 ends
        (.comma :: (item.tokens.reverse ++ reversed))
      simpa [compactItems, itemTokens] using first.trans (comma.trans later)

theorem scanFrom?_compactMembers (members : List (String × Json))
    (integral : IntegralMembers members) {rest : List Char} (ends : Token.Ends rest)
    (reversed : List Token) :
    Token.scanFrom? .between reversed ((compactMembers members).toList ++ rest) =
      Token.scanFrom? .between ((memberTokens members).reverse ++ reversed) rest := by
  match members with
  | [] => rfl
  | [(name, value)] =>
      have named := Token.scanFrom?_name name reversed (value.compact.toList ++ rest)
      have first := scanFrom?_compact value integral.1 ends
        (.colon :: .atom (.text name) :: reversed)
      simpa [compactMembers, memberTokens] using named.trans first
  | (name, value) :: second :: others =>
      have named := Token.scanFrom?_name name reversed
        (value.compact.toList ++ ',' :: ((compactMembers (second :: others)).toList ++ rest))
      have first := scanFrom?_compact value integral.1
        (Token.ends_punctuation ',' rfl ((compactMembers (second :: others)).toList ++ rest))
        (.colon :: .atom (.text name) :: reversed)
      have comma := Token.scanFrom?_punctuation ',' rfl
        (value.tokens.reverse ++ .colon :: .atom (.text name) :: reversed)
        ((compactMembers (second :: others)).toList ++ rest)
      have later := scanFrom?_compactMembers (second :: others) integral.2 ends
        (.comma :: (value.tokens.reverse ++ .colon :: .atom (.text name) :: reversed))
      simpa [compactMembers, memberTokens] using
        named.trans (first.trans (comma.trans later))

end

/-- The compact text of a value has the tokens of the value. -/
theorem scan?_compact (value : Json) (integral : Integral value) :
    Token.scan? value.compact = some value.tokens := by
  have ends : Token.Ends [] := by rintro next ⟨⟩
  have scanned := scanFrom?_compact value integral ends []
  rw [List.append_nil, List.append_nil] at scanned
  rw [Token.scan?, scanned, Token.scanFrom?, List.reverse_reverse]

end PropertyPanel.Json
