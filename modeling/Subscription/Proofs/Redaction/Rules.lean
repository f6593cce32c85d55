import Subscription.Proofs.Redaction.Masking

/-!
# Where secrets are found

Quotes cut a text into stretches. A bearer token never reaches over a quote, so a stretch is masked
for bearer tokens on its own (`mask_bearerRule_append_quote`). A token member takes three stretches
in a row: the key, a colon, and the secret (`tokenRule_quoted`); whatever else stands between two
quotes is not looked at further (`tokenRule_quoted_of_notMem`).
-/

namespace Subscription

namespace Redaction

/-! ### Bearer tokens -/

/-- What leads up to a bearer token: the word and at least one blank. -/
def BearerLead (lead : List Char) : Prop :=
  ∃ blanks, blanks ≠ [] ∧ (∀ c ∈ blanks, isBlank c = true) ∧ lead = bearer ++ blanks

theorem isBlank_of_isBearerChar {c : Char} (h : isBearerChar c = true) : isBlank c = false := by
  simp only [isBearerChar, Bool.not_eq_true', Bool.or_eq_false_iff] at h
  exact h.1.1.1

/-- The rule finds the word with blanks behind it, and then takes what belongs to a token. -/
theorem seeks_bearerRule : bearerRule.Seeks BearerLead isBearerChar := by
  intro chars finding
  constructor
  · intro h
    obtain ⟨ahead, word, h⟩ := Option.bind_eq_some_iff.1 h
    rw [behind?_eq_some_iff] at word
    split at h
    · cases h
    · next some_blank =>
      obtain ⟨lead, c, rest, behind, first, secret⟩ := secretOf_eq_some_iff.1 h
      have blanks : ∀ c ∈ ahead.takeWhile isBlank, isBlank c = true :=
        fun c mem => List.mem_takeWhile_imp mem
      refine ⟨⟨_, some_blank, blanks, lead⟩, c, rest, ?_, first, behind ▸ secret⟩
      rw [word, lead, ← behind, List.append_assoc, List.takeWhile_append_dropWhile]
  · rintro ⟨⟨blanks, some_blank, allBlank, lead⟩, c, rest, rfl, first, secret⟩
    have word : behind? bearer (finding.lead ++ c :: rest) = some (blanks ++ c :: rest) := by
      rw [behind?_eq_some_iff, lead, List.append_assoc]
    have noBlank : ¬isBlank c = true := by simp [isBlank_of_isBearerChar first]
    simp only [bearerRule, word, Option.bind_eq_bind, Option.bind_some,
      List.takeWhile_append_of_pos allBlank, List.dropWhile_append_of_pos allBlank,
      List.takeWhile_cons_of_neg noBlank, List.dropWhile_cons_of_neg noBlank, List.append_nil]
    exact secretOf_eq_some_iff.2 ⟨lead, c, rest, rfl, first, secret⟩

theorem honest_bearerRule : bearerRule.Honest := seeks_bearerRule.honest

/-- What leads up to a bearer token begins with the first letter of its word. -/
theorem BearerLead.eq_cons {lead : List Char} (h : BearerLead lead) :
    ∃ behind, lead = 'B' :: behind := by
  obtain ⟨blanks, -, -, rfl⟩ := h
  exact ⟨_, rfl⟩

/-- A bearer token is found at the first letter of its word only. -/
theorem bearerRule_cons_of_ne {c : Char} (h : c ≠ 'B') (rest : List Char) :
    bearerRule (c :: rest) = none :=
  seeks_bearerRule.eq_none_of_ne (fun _ isLead => isLead.eq_cons) h rest

/-- Where the first letter of the word is missing nothing is masked. -/
theorem mask_bearerRule_of_forall_ne {chars : List Char} (h : ∀ c ∈ chars, c ≠ 'B') :
    mask bearerRule chars = chars := by
  have all : mask bearerRule (chars ++ []) = chars ++ mask bearerRule [] :=
    mask_append_of_forall_none fun c mem behind => bearerRule_cons_of_ne (h c mem) behind
  simpa [mask, maskAfter] using all

/-- What stands behind a quote is not looked at. -/
theorem bearerRule_append_quote (front rest : List Char) :
    bearerRule (front ++ '"' :: rest) = bearerRule front := by
  have noQuote : '"' ∉ bearer := by decide
  rw [bearerRule, behind?_append_cons noQuote, bearerRule]
  cases behind? bearer front with
  | none => rfl
  | some ahead =>
    have notBlank : isBlank '"' = false := by decide
    have notOfToken : isBearerChar '"' = false := by decide
    simp only [Option.map_some, Option.bind_eq_bind, Option.bind_some,
      takeWhile_append_cons notBlank, dropWhile_append_cons notBlank]
    split
    · rfl
    · simp only [secretOf, takeWhile_append_cons notOfToken]

/-- A stretch that a quote ends is masked on its own. -/
theorem mask_bearerRule_append_quote (front rest : List Char) :
    mask bearerRule (front ++ '"' :: rest) =
      mask bearerRule front ++ '"' :: mask bearerRule rest := by
  refine honest_bearerRule.induction (motive := fun front result =>
    mask bearerRule (front ++ '"' :: rest) = result ++ '"' :: mask bearerRule rest) ?_
    (fun c behind none ih => ?_) (fun lead secret behind found some_secret ih => ?_) front
  · exact mask_cons_of_none (bearerRule_cons_of_ne (by decide) rest)
  · rw [List.cons_append, mask_cons_of_none, ih, List.cons_append]
    rw [← List.cons_append, bearerRule_append_quote, none]
  · rw [List.append_assoc, mask_append_of_some some_secret, ih, ← List.append_assoc]
    rw [← List.append_assoc, bearerRule_append_quote, found]

theorem mask_bearerRule_quote (rest : List Char) :
    mask bearerRule ('"' :: rest) = '"' :: mask bearerRule rest :=
  mask_bearerRule_append_quote [] rest

/-! ### Token members -/

/-- Whether a stretch is a colon, with blanks around it. -/
def isColon (chars : List Char) : Bool :=
  match chars.dropWhile isBlank with
  | ':' :: after => after.all isBlank
  | _ => false

/-- A colon may have blanks on both of its sides. -/
theorem isColon_iff {chars : List Char} :
    isColon chars = true ↔ ∃ before after, (∀ c ∈ before, isBlank c = true) ∧
      (∀ c ∈ after, isBlank c = true) ∧ chars = before ++ ':' :: after := by
  constructor
  · intro h
    unfold isColon at h
    split at h
    · next after behind =>
      refine ⟨chars.takeWhile isBlank, after, fun c mem => List.mem_takeWhile_imp mem,
        List.all_eq_true.1 h, ?_⟩
      rw [← behind, List.takeWhile_append_dropWhile]
    · cases h
  · rintro ⟨before, after, blank, blank', rfl⟩
    have stops : ¬isBlank ':' = true := by decide
    rw [isColon, List.dropWhile_append_of_pos blank, List.dropWhile_cons_of_neg stops]
    exact List.all_eq_true.2 blank'

theorem eq_of_isColon {chars : List Char} (h : isColon chars = true) :
    ∀ c ∈ chars, isBlank c = true ∨ c = ':' := by
  obtain ⟨before, after, blank, blank', rfl⟩ := isColon_iff.1 h
  intro c mem
  rcases List.mem_append.1 mem with mem | mem
  · exact .inl (blank c mem)
  · rcases List.mem_cons.1 mem with rfl | mem
    · exact .inr rfl
    · exact .inl (blank' c mem)

/-- There is no quote between a key and its value. -/
theorem quote_notMem_of_isColon {chars : List Char} (h : isColon chars = true) :
    '"' ∉ chars := by
  intro mem
  exact absurd (eq_of_isColon h _ mem) (by decide)

/-- The stretches that name a token member. -/
def keyStretches : List (List Char) := tokenKeys.map String.toList

theorem quote_notMem_of_mem_keyStretches {name : List Char} (h : name ∈ keyStretches) :
    '"' ∉ name := by
  have all : ∀ name ∈ keyStretches, '"' ∉ name := by decide
  exact all name h

/-- A key between quotes is found in front or not at all. -/
theorem behind?_quoted {key name : List Char} (hkey : '"' ∉ key) (hname : '"' ∉ name)
    (rest : List Char) :
    behind? ('"' :: key ++ ['"']) ('"' :: (name ++ '"' :: rest)) =
      if key = name then some rest else none := by
  split
  · next same =>
    rw [behind?_eq_some_iff, same]
    simp
  · next different =>
    rw [Option.eq_none_iff_forall_ne_some]
    intro behind found
    rw [behind?_eq_some_iff] at found
    have shifted : name ++ '"' :: rest = key ++ '"' :: behind := by simpa using found
    rw [← takeWhile_stretch hkey behind, ← shifted, takeWhile_stretch hname] at different
    exact different rfl

/-- A member is found by its key, the colon behind it and the text behind the colon. -/
theorem memberRule_quoted {key : String} (hkey : '"' ∉ key.toList) {name : List Char}
    (hname : '"' ∉ name) {between : List Char} (hbetween : '"' ∉ between) (rest : List Char) :
    memberRule key ('"' :: (name ++ '"' :: (between ++ '"' :: rest))) =
      if key.toList = name ∧ isColon between then
        secretOf (· ≠ '"') ('"' :: name ++ '"' :: between ++ ['"']) rest
      else none := by
  have notBlank : isBlank '"' = false := by decide
  rw [memberRule, behind?_quoted hkey hname]
  by_cases same : key.toList = name
  · rw [if_pos same, same]
    simp only [Option.bind_eq_bind, Option.bind_some, true_and, dropWhile_append_cons notBlank,
      takeWhile_append_cons notBlank, isColon]
    have whole := List.takeWhile_append_dropWhile (p := isBlank) (l := between)
    cases colon : between.dropWhile isBlank with
    | nil => simp
    | cons c after =>
      by_cases isColon : c = ':'
      · subst isColon
        rw [colon] at whole
        simp only [List.cons_append, dropWhile_append_cons notBlank,
          takeWhile_append_cons notBlank]
        -- The quote comes next only if nothing but blanks stands in between.
        cases behind : after.dropWhile isBlank with
        | nil =>
          have blank := List.dropWhile_eq_nil_iff.1 behind
          have all : after.takeWhile isBlank = after := List.takeWhile_eq_self_iff.2 blank
          have lead : '"' :: name ++ ['"'] ++ between.takeWhile isBlank ++ ':' :: after ++ ['"'] =
              '"' :: name ++ '"' :: between ++ ['"'] := by
            conv => rhs; rw [← whole]
            simp
          rw [if_pos (List.all_eq_true.2 blank), all]
          exact congrArg (secretOf _ · rest) lead
        | cons d more =>
          have mem : d ∈ between := by
            have tail : d ∈ after :=
              (List.dropWhile_suffix isBlank).subset (behind ▸ List.mem_cons_self)
            rw [← whole]
            exact List.mem_append_right _ (List.mem_cons_of_mem _ tail)
          have notQuote : d ≠ '"' := fun same => hbetween (same ▸ mem)
          have notAll : after.all isBlank = false := by
            rw [← Bool.not_eq_true, List.all_eq_true, ← List.dropWhile_eq_nil_iff, behind]
            exact List.cons_ne_nil d more
          simp [notQuote, notAll]
      · simp [isColon]
  · simp [same]

/-- Only what names a token member is looked at further. -/
theorem tokenRule_quoted_of_notMem {name : List Char} (h : name ∉ keyStretches)
    (hname : '"' ∉ name) (rest : List Char) : tokenRule ('"' :: (name ++ '"' :: rest)) = none := by
  refine List.findSome?_eq_none_iff.2 fun key mem => ?_
  have isKey : key.toList ∈ keyStretches := List.mem_map_of_mem mem
  have different : key.toList ≠ name := fun same => h (same ▸ isKey)
  rw [memberRule, behind?_quoted (quote_notMem_of_mem_keyStretches isKey) hname, if_neg different]
  rfl

/-- A token key is followed by a colon and a secret, or there is nothing to find. -/
theorem tokenRule_quoted {name : List Char} (hname : name ∈ keyStretches) {between : List Char}
    (hbetween : '"' ∉ between) (rest : List Char) :
    tokenRule ('"' :: (name ++ '"' :: (between ++ '"' :: rest))) =
      if isColon between then
        secretOf (· ≠ '"') ('"' :: name ++ '"' :: between ++ ['"']) rest
      else none := by
  have each (key : String) (mem : key ∈ tokenKeys) :=
    memberRule_quoted (quote_notMem_of_mem_keyStretches (List.mem_map_of_mem mem))
      (quote_notMem_of_mem_keyStretches hname) hbetween rest
  obtain ⟨own, mem, same⟩ := List.mem_map.1 hname
  cases found : tokenRule ('"' :: (name ++ '"' :: (between ++ '"' :: rest))) with
  | none =>
    have nothing := List.findSome?_eq_none_iff.1 found own mem
    rw [each own mem] at nothing
    simp only [same, true_and] at nothing
    exact nothing.symm
  | some finding =>
    obtain ⟨key, mem, hit⟩ := List.exists_of_findSome?_eq_some found
    rw [each key mem] at hit
    split at hit
    · next h => rw [if_pos h.2, hit]
    · cases hit

/-- Without a key, or without a colon behind it, nothing is found. -/
theorem tokenRule_quoted_of_not {name between : List Char} (hname : '"' ∉ name)
    (hbetween : '"' ∉ between) (h : ¬(name ∈ keyStretches ∧ isColon between = true))
    (rest : List Char) :
    tokenRule ('"' :: (name ++ '"' :: (between ++ '"' :: rest))) = none := by
  by_cases isKey : name ∈ keyStretches
  · rw [tokenRule_quoted isKey hbetween, if_neg fun colon => h ⟨isKey, colon⟩]
  · exact tokenRule_quoted_of_notMem isKey hname _

/-- What leads up to the secret of a token member: its key in quotes, a colon among blanks, and a
quote. -/
def TokenLead (lead : List Char) : Prop :=
  ∃ key ∈ tokenKeys, ∃ before after, (∀ c ∈ before, isBlank c = true) ∧
    (∀ c ∈ after, isBlank c = true) ∧
    lead = '"' :: key.toList ++ '"' :: before ++ ':' :: after ++ ['"']

/-- What leads up to the secret of a member, in terms of the stretches between its quotes. -/
theorem tokenLead_iff {lead : List Char} :
    TokenLead lead ↔ ∃ name ∈ keyStretches, ∃ between, isColon between = true ∧
      lead = '"' :: name ++ '"' :: between ++ ['"'] := by
  constructor
  · rintro ⟨key, mem, before, after, blank, blank', rfl⟩
    refine ⟨key.toList, List.mem_map_of_mem mem, before ++ ':' :: after,
      isColon_iff.2 ⟨before, after, blank, blank', rfl⟩, ?_⟩
    simp
  · rintro ⟨name, mem, between, colon, rfl⟩
    obtain ⟨key, isKey, rfl⟩ := List.mem_map.1 mem
    obtain ⟨before, after, blank, blank', rfl⟩ := isColon_iff.1 colon
    refine ⟨key, isKey, before, after, blank, blank', ?_⟩
    simp

/-- What the rule for one key finds is led up to by a token key, and ends at the next quote. -/
theorem memberRule_eq_some {key : String} (mem : key ∈ tokenKeys) {chars : List Char}
    {finding : Finding} (h : memberRule key chars = some finding) :
    TokenLead finding.lead ∧ ∃ c rest, chars = finding.lead ++ c :: rest ∧
      decide (c ≠ '"') = true ∧ finding.secret = (c :: rest).takeWhile (· ≠ '"') := by
  obtain ⟨ahead, name, h⟩ := Option.bind_eq_some_iff.1 h
  rw [behind?_eq_some_iff] at name
  dsimp only at h
  split at h
  · next ahead' colon =>
    split at h
    · next ahead'' quote =>
      obtain ⟨lead, c, rest, rfl, first, secret⟩ := secretOf_eq_some_iff.1 h
      have blanks (part : List Char) : ∀ c ∈ part.takeWhile isBlank, isBlank c = true :=
        fun c mem => List.mem_takeWhile_imp mem
      have before : ahead = ahead.takeWhile isBlank ++ ':' :: ahead' := by
        rw [← colon, List.takeWhile_append_dropWhile]
      have after : ahead' = ahead'.takeWhile isBlank ++ '"' :: (c :: rest) := by
        rw [← quote, List.takeWhile_append_dropWhile]
      refine ⟨⟨key, mem, _, _, blanks ahead, blanks ahead', ?_⟩, c, rest, ?_, first, secret⟩
      · rw [lead]
        simp
      · rw [name, lead]
        conv => lhs; rw [before, after]
        simp
    · cases h
  · cases h

/-- The rule finds a token key with its colon, and then takes what stands in front of the next
quote. -/
theorem seeks_tokenRule : tokenRule.Seeks TokenLead (· ≠ '"') := by
  intro chars finding
  constructor
  · intro h
    obtain ⟨key, mem, found⟩ := List.exists_of_findSome?_eq_some h
    exact memberRule_eq_some mem found
  · rintro ⟨isLead, c, rest, rfl, first, secret⟩
    obtain ⟨name, mem, between, colon, lead⟩ := tokenLead_iff.1 isLead
    have found := tokenRule_quoted mem (quote_notMem_of_isColon colon) (c :: rest)
    have whole : finding.lead ++ c :: rest =
        '"' :: (name ++ '"' :: (between ++ '"' :: c :: rest)) := by
      rw [lead]
      simp
    rw [whole, found, if_pos colon]
    exact secretOf_eq_some_iff.2 ⟨lead, c, rest, rfl, first, secret⟩

theorem honest_tokenRule : tokenRule.Honest := seeks_tokenRule.honest

/-- Three quotes lead up to the secret of a token member. -/
theorem TokenLead.count_quote {lead : List Char} (h : TokenLead lead) : lead.count '"' = 3 := by
  obtain ⟨name, mem, between, colon, rfl⟩ := tokenLead_iff.1 h
  have inName := List.count_eq_zero_of_not_mem (quote_notMem_of_mem_keyStretches mem)
  have inBetween := List.count_eq_zero_of_not_mem (quote_notMem_of_isColon colon)
  simp [inName, inBetween]

/-- What leads up to the secret of a member begins with a quote. -/
theorem TokenLead.eq_cons {lead : List Char} (h : TokenLead lead) :
    ∃ behind, lead = '"' :: behind := by
  obtain ⟨key, -, before, after, -, -, rfl⟩ := h
  exact ⟨_, rfl⟩

theorem TokenLead.ne_nil {lead : List Char} (h : TokenLead lead) : lead ≠ [] := by
  obtain ⟨behind, rfl⟩ := h.eq_cons
  exact List.cons_ne_nil _ _

/-- A token member is found at a quote only. -/
theorem tokenRule_cons_of_ne {c : Char} (h : c ≠ '"') (rest : List Char) :
    tokenRule (c :: rest) = none :=
  seeks_tokenRule.eq_none_of_ne (fun _ isLead => isLead.eq_cons) h rest

/-- A token member needs three quotes. -/
theorem tokenRule_of_count_lt {chars : List Char} (h : chars.count '"' < 3) :
    tokenRule chars = none := by
  rw [Option.eq_none_iff_forall_ne_some]
  intro finding found
  obtain ⟨isLead, c, rest, same, -⟩ := (seeks_tokenRule _ _).1 found
  rw [same, List.count_append, isLead.count_quote] at h
  omega

/-- A stretch without quotes holds no token member. -/
theorem mask_tokenRule_append {front : List Char} (h : '"' ∉ front) (rest : List Char) :
    mask tokenRule (front ++ rest) = front ++ mask tokenRule rest :=
  mask_append_of_forall_none fun _ mem behind =>
    tokenRule_cons_of_ne (fun same => h (same ▸ mem)) behind

/-- What a token key says is a secret is masked, up to the next quote. -/
theorem mask_tokenRule_member {name : List Char} (hname : name ∈ keyStretches)
    {between : List Char} (colon : isColon between = true) {secret : List Char}
    (hsecret : '"' ∉ secret) (some_secret : secret ≠ []) (rest : List Char) :
    mask tokenRule ('"' :: (name ++ '"' :: (between ++ '"' :: (secret ++ '"' :: rest)))) =
      '"' :: (name ++ '"' :: (between ++ '"' :: (masked ++ mask tokenRule ('"' :: rest)))) := by
  have isLead : TokenLead ('"' :: name ++ '"' :: between ++ ['"']) :=
    tokenLead_iff.2 ⟨name, hname, between, colon, rfl⟩
  have ofSecret : ∀ c ∈ secret, decide (c ≠ '"') = true := fun c mem =>
    decide_eq_true fun same => hsecret (same ▸ mem)
  have behind : (secret ++ '"' :: rest).dropWhile (· ≠ '"') = '"' :: rest := by
    rw [List.dropWhile_append_of_pos ofSecret, List.dropWhile_cons_of_neg (by simp)]
  cases secret with
  | nil => exact absurd rfl some_secret
  | cons c more =>
    have masks := seeks_tokenRule.mask_append isLead (ofSecret c List.mem_cons_self)
      (more ++ '"' :: rest)
    rw [← List.cons_append, behind] at masks
    simpa using masks

end Redaction

end Subscription
