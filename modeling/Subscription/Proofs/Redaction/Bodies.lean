import Subscription.Proofs.Json.Written
import Subscription.Proofs.Redaction.Rules

/-!
# What the log shows of a body

Two JSON values that differ only in the secrets of their token members look the same in the log,
whatever else they hold (`redact_compact_eq_of_sameButTokens`). Their texts are cut by the same
quotes into stretches, between and within strings, and `Redaction.Alike` follows both texts from
stretch to stretch. Masking bearer tokens keeps it, stretch by stretch, and masking token members
then makes the texts equal: a stretch that names a token key and is no key is followed by no colon,
and a secret is never taken for the key of another.
-/

namespace Subscription

/-! ### Values that differ in secrets -/

namespace Json

/-- A secret can be told from a missing one, and from what follows it. -/
def IsSecret : Json → Prop
  | .string text => text ≠ "" ∧ '"' ∉ text.toList
  | _ => False

mutual

/-- The values are the same, but for the secrets of token members at any depth. -/
def SameButTokens : Json → Json → Prop
  | .array a, .array b => SameItemsButTokens a b
  | .object a, .object b => SameMembersButTokens a b
  | a, b => a = b

/-- The lists are the same place by place, but for the secrets of token members. -/
def SameItemsButTokens : List Json → List Json → Prop
  | [], [] => True
  | a :: as, b :: bs => SameButTokens a b ∧ SameItemsButTokens as bs
  | _, _ => False

/-- The keys are the same, and so are the values under them, but for the secrets of members that
carry tokens. -/
def SameMembersButTokens : List (String × Json) → List (String × Json) → Prop
  | [], [] => True
  | (k, a) :: as, (l, b) :: bs =>
    k = l ∧
      (SameButTokens a b ∨ k ∈ ["machineToken", "resourceToken", "contractToken", "token"] ∧
        a.IsSecret ∧ b.IsSecret) ∧
      SameMembersButTokens as bs
  | _, _ => False

end

theorem IsSecret.exists_eq {v : Json} (h : v.IsSecret) : ∃ text, v = .string text := by
  cases v with
  | string text => exact ⟨text, rfl⟩
  | _ => exact h.elim

/-- Only an array is the same as an array, and it is so item by item. -/
theorem sameButTokens_array {a : List Json} {w : Json} :
    (array a).SameButTokens w ↔ ∃ b, w = .array b ∧ SameItemsButTokens a b := by
  cases w <;> simp [SameButTokens]

/-- Only an object is the same as an object, and it is so member by member. -/
theorem sameButTokens_object {a : List (String × Json)} {w : Json} :
    (object a).SameButTokens w ↔ ∃ b, w = .object b ∧ SameMembersButTokens a b := by
  cases w <;> simp [SameButTokens]

end Json

/-! ### Texts that differ in secrets -/

namespace Redaction

/-- Where in a JSON text a stretch lies: between strings or within one. -/
inductive Place where
  | between
  | within

/-- Between its strings a JSON text has no quotes, and no letter that begins the word of bearer
tokens or stands in every token key. -/
def Bare (chars : List Char) : Prop := ∀ c ∈ chars, c ≠ '"' ∧ c ≠ 'B' ∧ c ≠ 'k'

/-- A secret between its quotes. -/
structure Hidden (secret : List Char) : Prop where
  noQuote : '"' ∉ secret
  ne_nil : secret ≠ []

/-- JSON texts from some place on that differ only in the secrets of token members. Within a string,
a stretch begins with the quote in front of it. -/
inductive Alike : Place → List Char → List Char → Prop
  | stop {front : List Char} : Bare front → Alike .between front front
  | opening {front t t' : List Char} : Bare front → Alike .within t t' →
      Alike .between (front ++ t) (front ++ t')
  /-- A token key stands behind a brace or a comma. -/
  | token {front name colon secret secret' t t' : List Char} : Bare front →
      '{' ∈ front ∨ ',' ∈ front → name ∈ keyStretches → isColon colon = true →
      Hidden secret → Hidden secret' → Alike .between t t' →
      Alike .between (front ++ '"' :: (name ++ '"' :: (colon ++ '"' :: (secret ++ '"' :: t))))
        (front ++ '"' :: (name ++ '"' :: (colon ++ '"' :: (secret' ++ '"' :: t'))))
  /-- A stretch in front of a quote within the string. -/
  | escaped {part t t' : List Char} : '"' ∉ part → part ∉ keyStretches → Alike .within t t' →
      Alike .within ('"' :: (part ++ t)) ('"' :: (part ++ t'))
  | closing {part t t' : List Char} : '"' ∉ part → Alike .between t t' →
      Alike .within ('"' :: (part ++ '"' :: t)) ('"' :: (part ++ '"' :: t'))

instance (chars : List Char) : Decidable (Bare chars) :=
  inferInstanceAs (Decidable (∀ c ∈ chars, c ≠ '"' ∧ c ≠ 'B' ∧ c ≠ 'k'))

namespace Bare

variable {front : List Char}

theorem quote_notMem (h : Bare front) : '"' ∉ front := fun mem => (h _ mem).1 rfl

/-- Every token key has a `k`, which a bare stretch has not. -/
theorem notMem_keyStretches (h : Bare front) : front ∉ keyStretches := by
  have all : ∀ name ∈ keyStretches, 'k' ∈ name := by decide
  exact fun mem => (h _ (all _ mem)).2.2 rfl

/-- There is no bearer token in a bare stretch, since its word would begin with a `B`. -/
theorem mask_bearerRule (h : Bare front) : mask bearerRule front = front :=
  mask_bearerRule_of_forall_ne fun c mem => (h c mem).2.1

/-- What has no strings may stand in front. -/
theorem append {more : List Char} (h : Bare front) (h' : Bare more) : Bare (front ++ more) :=
  List.forall_mem_append.2 ⟨h, h'⟩

end Bare

theorem bare_mark {mark : Char} (h : mark = '{' ∨ mark = ',') : Bare [mark] := by
  rcases h with rfl | rfl <;> decide

/-- What marks the place of a key is no colon. -/
theorem isColon_of_mem {front : List Char} (h : '{' ∈ front ∨ ',' ∈ front) :
    isColon front = false := by
  rw [← Bool.not_eq_true]
  intro colon
  have known := eq_of_isColon colon
  rcases h with mem | mem
  · exact absurd (known _ mem) (by decide)
  · exact absurd (known _ mem) (by decide)

/-! ### Bearer tokens are masked in both -/

/-- To mask bearer tokens brings no quote into a stretch. -/
theorem quote_notMem_mask_bearerRule {chars : List Char} (h : '"' ∉ chars) :
    '"' ∉ mask bearerRule chars := by
  intro mem
  rcases mem_of_mem_mask honest_bearerRule mem with mem | mem
  · exact h mem
  · exact absurd mem (by decide)

/-- No token key comes out of masking bearer tokens. -/
theorem mask_bearerRule_notMem_keyStretches {chars : List Char} (h : chars ∉ keyStretches) :
    mask bearerRule chars ∉ keyStretches := by
  have all : ∀ name ∈ keyStretches, '<' ∉ name := by decide
  rcases mask_eq_or_mem honest_bearerRule chars with same | shown
  · rwa [same]
  · exact fun mem => all _ mem shown

/-- A secret stays hidden between its quotes when bearer tokens are masked in it. -/
theorem Hidden.mask_bearerRule {secret : List Char} (h : Hidden secret) :
    Hidden (mask bearerRule secret) :=
  ⟨quote_notMem_mask_bearerRule h.noQuote, mask_ne_nil honest_bearerRule h.ne_nil⟩

namespace Alike

variable {t t' : List Char}

/-- Where a stretch of a string ends, a quote stands in both texts. -/
theorem within_eq_cons (h : Alike .within t t') : ∃ u u', t = '"' :: u ∧ t' = '"' :: u' := by
  cases h with
  | escaped => exact ⟨_, _, rfl, rfl⟩
  | closing => exact ⟨_, _, rfl, rfl⟩

/-- Texts that differ in secrets still do so when bearer tokens are masked in them. -/
theorem mask_bearerRule {place : Place} (h : Alike place t t') :
    Alike place (mask bearerRule t) (mask bearerRule t') := by
  -- A quote ends every bearer token, so each stretch between quotes is masked on its own.
  induction h with
  | stop bare =>
    rw [bare.mask_bearerRule]
    exact .stop bare
  | opening bare h ih =>
    obtain ⟨u, u', rfl, rfl⟩ := h.within_eq_cons
    rw [mask_bearerRule_quote, mask_bearerRule_quote] at ih
    simp only [mask_bearerRule_append_quote, bare.mask_bearerRule]
    exact .opening bare ih
  | @token front name colon secret secret' t t' bare mark isKey isColon hidden hidden' h ih =>
    have key : mask bearerRule name = name := by
      have all : ∀ name ∈ keyStretches, mask bearerRule name = name := by decide
      exact all name isKey
    have colon : mask bearerRule colon = colon := by
      refine mask_bearerRule_of_forall_ne fun c mem same => ?_
      exact absurd (eq_of_isColon isColon c mem) (by rw [same]; decide)
    simp only [mask_bearerRule_append_quote, bare.mask_bearerRule, key, colon]
    exact .token bare mark isKey isColon hidden.mask_bearerRule hidden'.mask_bearerRule ih
  | escaped free noKey h ih =>
    obtain ⟨u, u', rfl, rfl⟩ := h.within_eq_cons
    rw [mask_bearerRule_quote, mask_bearerRule_quote] at ih
    simp only [mask_bearerRule_quote, mask_bearerRule_append_quote]
    exact .escaped (quote_notMem_mask_bearerRule free)
      (mask_bearerRule_notMem_keyStretches noKey) ih
  | closing free h ih =>
    simp only [mask_bearerRule_quote, mask_bearerRule_append_quote]
    exact .closing (quote_notMem_mask_bearerRule free) ih

/-! ### Token members are masked alike -/

/-- Nothing is found at the quote that closes a string. -/
theorem mask_tokenRule_quote (h : Alike .between t t') :
    mask tokenRule ('"' :: t) = '"' :: mask tokenRule t := by
  refine mask_cons_of_none ?_
  cases h with
  | stop bare =>
    refine tokenRule_of_count_lt ?_
    rw [List.count_cons_self, List.count_eq_zero_of_not_mem bare.quote_notMem]
    decide
  | opening bare h =>
    obtain ⟨u, -, rfl, -⟩ := h.within_eq_cons
    exact tokenRule_quoted_of_notMem bare.notMem_keyStretches bare.quote_notMem u
  | token bare =>
    exact tokenRule_quoted_of_notMem bare.notMem_keyStretches bare.quote_notMem _

/-- Masking goes on behind a stretch at which nothing is found. -/
theorem mask_tokenRule_stretch {part rest : List Char} (free : '"' ∉ part)
    (h : tokenRule ('"' :: (part ++ rest)) = none) :
    mask tokenRule ('"' :: (part ++ rest)) = '"' :: (part ++ mask tokenRule rest) := by
  rw [mask_cons_of_none h, mask_tokenRule_append free]

/-- To be alike has no direction: either secret may stand on either side. -/
theorem symm {place : Place} (h : Alike place t t') : Alike place t' t := by
  induction h with
  | stop bare => exact .stop bare
  | opening bare _ ih => exact .opening bare ih
  | token bare mark isKey isColon hidden hidden' _ ih =>
    exact .token bare mark isKey isColon hidden' hidden ih
  | escaped free noKey _ ih => exact .escaped free noKey ih
  | closing free _ ih => exact .closing free ih

/-- What a stretch is followed by if nothing is found at it. -/
theorem mask_tokenRule_closing {part : List Char} (free : '"' ∉ part) (h : Alike .between t t')
    (nothing : tokenRule ('"' :: (part ++ '"' :: t)) = none) :
    mask tokenRule ('"' :: (part ++ '"' :: t)) = '"' :: (part ++ '"' :: mask tokenRule t) := by
  rw [mask_tokenRule_stretch free nothing, h.mask_tokenRule_quote]

/-- Behind a token key and its colon the stretch of a string is masked, or it is empty and the
search goes on at it. -/
theorem mask_tokenRule_behind_key {name colon part u u' : List Char} (isKey : name ∈ keyStretches)
    (hcolon : isColon colon = true) (free : '"' ∉ part)
    (same : mask tokenRule ('"' :: (part ++ '"' :: u)) =
      mask tokenRule ('"' :: (part ++ '"' :: u')))
    (behind : mask tokenRule ('"' :: u) = mask tokenRule ('"' :: u')) :
    mask tokenRule ('"' :: (name ++ '"' :: (colon ++ '"' :: (part ++ '"' :: u)))) =
      mask tokenRule ('"' :: (name ++ '"' :: (colon ++ '"' :: (part ++ '"' :: u')))) := by
  have noQuote := quote_notMem_of_isColon hcolon
  by_cases empty : part = []
  · subst empty
    have nothing (rest : List Char) :
        tokenRule ('"' :: (name ++ '"' :: (colon ++ '"' :: ([] ++ '"' :: rest)))) = none := by
      rw [tokenRule_quoted isKey noQuote, if_pos hcolon]
      rfl
    have noKey : colon ∉ keyStretches := by
      have all : ∀ name ∈ keyStretches, isColon name = false := by decide
      exact fun mem => Bool.false_ne_true ((all colon mem).symm.trans hcolon)
    have goesOn := tokenRule_quoted_of_notMem noKey noQuote
    have free := quote_notMem_of_mem_keyStretches isKey
    rw [mask_tokenRule_stretch free (nothing u), mask_tokenRule_stretch noQuote (goesOn _),
      mask_tokenRule_stretch free (nothing u'), mask_tokenRule_stretch noQuote (goesOn _), same]
  · rw [mask_tokenRule_member isKey hcolon free empty,
      mask_tokenRule_member isKey hcolon free empty, behind]

/-- The texts are equal once token members are masked in them, and they go on to be so behind what
may come in front of them: a stretch of a string, or a token key with its colon. -/
def MaskedEqual : Place → List Char → List Char → Prop
  | .between, t, t' => mask tokenRule t = mask tokenRule t' ∧ ∀ part, '"' ∉ part →
      mask tokenRule ('"' :: (part ++ '"' :: t)) = mask tokenRule ('"' :: (part ++ '"' :: t'))
  | .within, t, t' => mask tokenRule t = mask tokenRule t' ∧
      ∀ name ∈ keyStretches, ∀ colon, isColon colon = true →
        mask tokenRule ('"' :: (name ++ '"' :: (colon ++ t))) =
          mask tokenRule ('"' :: (name ++ '"' :: (colon ++ t')))

/-- Texts that differ in secrets become equal when token members are masked in them. -/
theorem maskedEqual {place : Place} (h : Alike place t t') : MaskedEqual place t t' := by
  induction h with
  | stop => exact ⟨rfl, fun _ _ => rfl⟩
  | @opening front t t' bare inside ih =>
    have same : mask tokenRule (front ++ t) = mask tokenRule (front ++ t') := by
      rw [mask_tokenRule_append bare.quote_notMem, mask_tokenRule_append bare.quote_notMem, ih.1]
    refine ⟨same, fun part free => ?_⟩
    by_cases key : part ∈ keyStretches ∧ isColon front = true
    · exact ih.2 part key.1 front key.2
    · have outer := Alike.opening bare inside
      obtain ⟨u, u', rfl, rfl⟩ := inside.within_eq_cons
      have nothing := tokenRule_quoted_of_not free bare.quote_notMem key
      rw [outer.mask_tokenRule_closing free (nothing u),
        outer.symm.mask_tokenRule_closing free (nothing u'), same]
  | @token front name colon secret secret' t t' bare mark isKey hcolon hidden hidden' rest ih =>
    have noQuote := quote_notMem_of_isColon hcolon
    have same : mask tokenRule
          (front ++ '"' :: (name ++ '"' :: (colon ++ '"' :: (secret ++ '"' :: t)))) =
        mask tokenRule
          (front ++ '"' :: (name ++ '"' :: (colon ++ '"' :: (secret' ++ '"' :: t')))) := by
      rw [mask_tokenRule_append bare.quote_notMem, mask_tokenRule_append bare.quote_notMem,
        mask_tokenRule_member isKey hcolon hidden.noQuote hidden.ne_nil,
        mask_tokenRule_member isKey hcolon hidden'.noQuote hidden'.ne_nil,
        rest.mask_tokenRule_quote, rest.symm.mask_tokenRule_quote, ih.1]
    refine ⟨same, fun part free => ?_⟩
    -- The mark in front of a token key is no colon.
    have noColon : ¬(part ∈ keyStretches ∧ isColon front = true) := by simp [isColon_of_mem mark]
    have nothing := tokenRule_quoted_of_not free bare.quote_notMem noColon
    have outer := Alike.token bare mark isKey hcolon hidden hidden' rest
    rw [outer.mask_tokenRule_closing free (nothing _),
      outer.symm.mask_tokenRule_closing free (nothing _), same]
  | @escaped part t t' free noKey inside ih =>
    obtain ⟨u, u', rfl, rfl⟩ := inside.within_eq_cons
    have nothing := tokenRule_quoted_of_notMem noKey free
    have same : mask tokenRule ('"' :: (part ++ '"' :: u)) =
        mask tokenRule ('"' :: (part ++ '"' :: u')) := by
      rw [mask_tokenRule_stretch free (nothing u), mask_tokenRule_stretch free (nothing u'), ih.1]
    exact ⟨same, fun name isKey colon hcolon =>
      mask_tokenRule_behind_key isKey hcolon free same ih.1⟩
  | @closing part t t' free rest ih =>
    have behind : mask tokenRule ('"' :: t) = mask tokenRule ('"' :: t') := by
      rw [rest.mask_tokenRule_quote, rest.symm.mask_tokenRule_quote, ih.1]
    exact ⟨ih.2 part free, fun name isKey colon hcolon =>
      mask_tokenRule_behind_key isKey hcolon free (ih.2 part free) behind⟩

end Alike

/-! ### Written values that differ in secrets -/

namespace Alike

variable {t t' : List Char}

/-- The characters of a string from some place on, with the stretch in front of them. -/
theorem text (h : Alike .between t t') {part : List Char} (free : '"' ∉ part) (rest : List Char) :
    Alike .within ('"' :: (part ++ (rest.flatMap Json.escape ++ '"' :: t)))
      ('"' :: (part ++ (rest.flatMap Json.escape ++ '"' :: t'))) := by
  induction rest generalizing part with
  | nil => exact .closing free h
  | cons c rest ih =>
    rw [List.flatMap_cons]
    by_cases quote : c = '"'
    · -- The stretch in front of an escaped quote ends in a backslash, so it is no key.
      subst quote
      have noKey : part ++ ['\\'] ∉ keyStretches := by
        have all : ∀ name ∈ keyStretches, '\\' ∉ name := by decide
        exact fun mem => all _ mem (List.mem_append_right _ List.mem_cons_self)
      have free : '"' ∉ part ++ ['\\'] := by simp [free]
      have step := Alike.escaped free noKey (ih (List.not_mem_nil))
      simpa [show Json.escape '"' = ['\\', '"'] by decide] using step
    · have free : '"' ∉ part ++ Json.escape c := by
        simp [free, Json.quote_notMem_escape quote]
      simpa using ih free

end Alike

/-- A secret is written without quotes. -/
theorem Hidden.ofSecret {text : String} (h : (Json.string text).IsSecret) :
    Hidden (text.toList.flatMap Json.escape) := by
  obtain ⟨some_text, free⟩ := h
  constructor
  · simp only [List.mem_flatMap, not_exists, not_and]
    exact fun c mem => Json.quote_notMem_escape fun same => free (same ▸ mem)
  · intro empty
    cases chars : text.toList with
    | nil => exact some_text (String.toList_eq_nil_iff.1 chars)
    | cons c rest =>
      rw [chars, List.flatMap_cons, List.append_eq_nil_iff] at empty
      exact Json.escape_ne_nil c empty.1

/-- A number is written with digits, signs, a point and an `e`. -/
theorem bare_number (value : Number) : Bare value.text.toList := by
  intro c mem
  have numeral := value.isNumeral_text c mem
  refine ⟨?_, ?_, ?_⟩ <;> (rintro rfl; exact absurd numeral (by decide))

/-- The texts differ only in secrets, also behind what has no strings. -/
def Continues (t t' : List Char) : Prop :=
  ∀ front, Bare front → Alike .between (front ++ t) (front ++ t')

namespace Continues

variable {t t' : List Char}

theorem nil : Continues [] [] := by
  intro front bare
  rw [List.append_nil]
  exact .stop bare

theorem alike (h : Continues t t') : Alike .between t t' := h [] (List.forall_mem_nil _)

theorem append (h : Continues t t') (part : List Char) (bare : Bare part) :
    Continues (part ++ t) (part ++ t') := by
  intro front bareFront
  rw [← List.append_assoc, ← List.append_assoc]
  exact h _ (bareFront.append bare)

/-- The same string may stand in front, whatever escapes are in it. -/
theorem string (h : Continues t t') (text : String) :
    Continues (Json.quoted text ++ t) (Json.quoted text ++ t') := by
  intro front bare
  have inside := h.alike.text List.not_mem_nil text.toList
  simpa [Json.quoted] using Alike.opening bare inside

/-- The member of a token key, behind its mark. -/
theorem token {mark : Char} (isMark : mark = '{' ∨ mark = ',') {key : String}
    (isKey : key ∈ tokenKeys) {secret secret' : String} (hidden : (Json.string secret).IsSecret)
    (hidden' : (Json.string secret').IsSecret) (h : Continues t t') :
    Continues (mark :: (Json.quoted key ++ ':' :: (Json.quoted secret ++ t)))
      (mark :: (Json.quoted key ++ ':' :: (Json.quoted secret' ++ t'))) := by
  intro front bare
  have marked : '{' ∈ front ++ [mark] ∨ ',' ∈ front ++ [mark] := by
    rcases isMark with rfl | rfl <;> simp
  have written : key.toList.flatMap Json.escape = key.toList := by
    have all : ∀ key ∈ tokenKeys, key.toList.flatMap Json.escape = key.toList := by decide
    exact all key isKey
  have named : key.toList ∈ keyStretches := List.mem_map_of_mem isKey
  have isColon : isColon [':'] = true := by decide
  have both := Alike.token (bare.append (bare_mark isMark)) marked named isColon
    (.ofSecret hidden) (.ofSecret hidden') h.alike
  simpa [Json.quoted, written] using both

/-- A member behind its mark, if its value keeps to this by itself. -/
theorem member {mark : Char} (isMark : mark = '{' ∨ mark = ',') {key : String} {v w : Json}
    (same : v.SameButTokens w ∨ key ∈ tokenKeys ∧ v.IsSecret ∧ w.IsSecret) (h : Continues t t')
    (own : v.SameButTokens w → Continues (v.compactChars ++ t) (w.compactChars ++ t')) :
    Continues (mark :: (Json.quoted key ++ ':' :: (v.compactChars ++ t)))
      (mark :: (Json.quoted key ++ ':' :: (w.compactChars ++ t'))) := by
  rcases same with same | ⟨isKey, secret, secret'⟩
  · have behind := (own same).append [':'] (by decide)
    exact (behind.string key).append [mark] (bare_mark isMark)
  · obtain ⟨text, rfl⟩ := secret.exists_eq
    obtain ⟨text', rfl⟩ := secret'.exists_eq
    exact token isMark isKey secret secret' h

mutual

/-- Values that are the same but for tokens may stand in front. -/
theorem value {v w : Json} (same : v.SameButTokens w) {t t' : List Char} (h : Continues t t') :
    Continues (v.compactChars ++ t) (w.compactChars ++ t') := by
  cases v with
  | null =>
    obtain rfl : .null = w := by simpa [Json.SameButTokens] using same
    exact h.append _ (by decide)
  | bool b =>
    obtain rfl : .bool b = w := by simpa [Json.SameButTokens] using same
    cases b with
    | false => exact h.append _ (by decide)
    | true => exact h.append _ (by decide)
  | number n =>
    obtain rfl : .number n = w := by simpa [Json.SameButTokens] using same
    exact h.append _ (bare_number n)
  | string text =>
    obtain rfl : .string text = w := by simpa [Json.SameButTokens] using same
    exact h.string text
  | array a =>
    obtain ⟨b, rfl, same⟩ := Json.sameButTokens_array.1 same
    have behind := items same (h.append [']'] (by decide))
    simpa [Json.compactChars] using behind.append ['['] (by decide)
  | object a =>
    obtain ⟨b, rfl, same⟩ := Json.sameButTokens_object.1 same
    have behind := members (.inl rfl) same (h.append ['}'] (by decide))
    simpa [Json.compactChars] using behind

/-- Items that are the same but for tokens may stand in front. -/
theorem items {a b : List Json} (same : Json.SameItemsButTokens a b) {t t' : List Char}
    (h : Continues t t') :
    Continues (Json.compactItems a ++ t) (Json.compactItems b ++ t') := by
  match a, b, same with
  | [], [], _ => exact h
  | [v], [w], same => exact value same.1 h
  | v :: v' :: a, w :: w' :: b, same =>
    have behind := (items same.2 h).append [','] (by decide)
    simpa [Json.compactItems] using value same.1 behind

/-- Members that are the same but for tokens may stand in front, with the mark of the first. -/
theorem members {mark : Char} (isMark : mark = '{' ∨ mark = ',') {a b : List (String × Json)}
    (same : Json.SameMembersButTokens a b) {t t' : List Char} (h : Continues t t') :
    Continues (mark :: (Json.compactMembers a ++ t)) (mark :: (Json.compactMembers b ++ t')) := by
  match a, b, same with
  | [], [], _ => exact h.append [mark] (bare_mark isMark)
  | [(k, v)], [(_, w)], same =>
    obtain ⟨rfl, same, -⟩ := same
    simpa [Json.compactMembers] using member isMark same h fun same => value same h
  | (k, v) :: more :: a, (_, w) :: more' :: b, same =>
    obtain ⟨rfl, same, rest⟩ := same
    have behind := members (.inr rfl) rest h
    simpa [Json.compactMembers] using member isMark same behind fun same => value same behind

end

end Continues

end Redaction

namespace Json

open Redaction in
/-- **The log is blind to tokens**: bodies that differ only in the secrets of token members are
logged as the same text. Strings elsewhere may hold anything, also quotes, the word of bearer tokens
and what looks like a token member. -/
theorem redact_compact_eq_of_sameButTokens {v w : Json} (h : v.SameButTokens w) :
    redact v.compact = redact w.compact := by
  have alike : Alike .between v.compactChars w.compactChars := by
    simpa using (Continues.nil.value h).alike
  have same : redactChars v.compactChars = redactChars w.compactChars :=
    alike.mask_bearerRule.maskedEqual.1
  simp only [redact, compact, String.toList_ofList, same]

/-- A secret that looks like a header and ends in a backslash, between strings that look like token
members with their quotes escaped. -/
theorem redact_compact_tokens_among_lookalikes :
    redact (object [("a\"token", .string "Bearer \""), ("list", .array [.string "\"token\":\"",
        object [("resourceToken", .string "Bearer x, y\\"), ("token", .string "1")]]),
        ("machineToken", .string "tokens"), ("n", .number (.unsigned 7))]).compact =
      redact (object [("a\"token", .string "Bearer \""), ("list", .array [.string "\"token\":\"",
        object [("resourceToken", .string "\n"), ("token", .string "Bearer\t2")]]),
        ("machineToken", .string ":"), ("n", .number (.unsigned 7))]).compact :=
  redact_compact_eq_of_sameButTokens <| by
    simp [SameButTokens, SameItemsButTokens, SameMembersButTokens, IsSecret]

end Json

end Subscription
