import Subscription.Proofs.Redaction.Rules

/-!
# No secret is left

Masking goes through a text once, from left to right, and never looks into what it has passed. Yet
nothing that looks like a secret is left when it is done, also where two candidates share
characters, and masking a second time changes nothing (`redact_leaves_no_secret`).

Two things carry this. A mask never helps to lead up to a secret, since what leads up to one is cut
off from the next lead by a character it has a fixed number of times (`Rule.Marked`): so a place at
which the rule found nothing is still no lead once everything behind it is masked
(`Rule.Marked.eq_none_of_none`), and no lead begins within another (`Rule.Marked.settled_mask`). And
a bearer token ends at the next quote, up to which masking token members leaves everything as it is,
so the second pass brings back nothing the first has masked (`bearerRule_mask_tokenRule`).
-/

namespace Subscription

namespace Redaction

/-- Whatever leads up to a secret in the characters, the mask stands behind it. -/
def Covered (IsLead : List Char → Prop) (ofSecret : Char → Bool) (chars : List Char) : Prop :=
  ∀ front lead c ahead, chars = front ++ lead ++ c :: ahead → IsLead lead → ofSecret c = true →
    (c :: ahead).takeWhile ofSecret = masked

/-! ### Texts in which a rule finds only masks -/

/-- All that the rule finds at some place of the characters is a mask. -/
def Rule.Settled (rule : Rule) (chars : List Char) : Prop :=
  ∀ rest, rest <:+ chars → ∀ finding, rule rest = some finding → finding.secret = masked

namespace Rule.Settled

variable {rule : Rule} {front rest : List Char} {c : Char}

/-- What is settled is settled from any place on. -/
theorem of_suffix {chars : List Char} (h : rule.Settled chars) (suffix : rest <:+ chars) :
    rule.Settled rest := fun behind inside => h behind (inside.trans suffix)

/-- One place more is settled if what is found there is a mask. -/
theorem cons (here : ∀ finding, rule (c :: rest) = some finding → finding.secret = masked)
    (h : rule.Settled rest) : rule.Settled (c :: rest) := by
  intro behind suffix
  rcases List.suffix_cons_iff.1 suffix with rfl | inside
  · exact here
  · exact h behind inside

/-- A stretch in front is settled if only masks are found at its places. -/
theorem append (h : rule.Settled rest) (inFront : ∀ part, part <:+ front → part ≠ [] →
    ∀ finding, rule (part ++ rest) = some finding → finding.secret = masked) :
    rule.Settled (front ++ rest) := by
  induction front with
  | nil => exact h
  | cons c front ih =>
    refine cons (inFront _ List.suffix_rfl (List.cons_ne_nil c front)) (ih fun part inside => ?_)
    exact inFront part (inside.trans (List.suffix_cons c front))

/-- Where a rule finds masks only, nothing that leads up to a secret has anything else behind it. -/
theorem covered {IsLead : List Char → Prop} {ofSecret : Char → Bool} {chars : List Char}
    (h : rule.Settled chars) (seeks : rule.Seeks IsLead ofSecret) :
    Covered IsLead ofSecret chars := by
  rintro front lead c ahead rfl isLead first
  have found := seeks.eq_some isLead first ahead
  refine h (lead ++ c :: ahead) ?_ _ found
  rw [List.append_assoc]
  exact List.suffix_append front _

/-- Where only masks are found, masking changes nothing. -/
theorem mask_eq {chars : List Char} (h : rule.Settled chars) (honest : rule.Honest) :
    mask rule chars = chars := by
  refine honest.induction (motive := fun chars result => rule.Settled chars → result = chars)
    (fun _ => rfl) (fun c rest _ ih h => ?_) (fun lead secret rest found _ ih h => ?_) chars h
  · rw [ih (h.of_suffix (List.suffix_cons c rest))]
  · have isMask : secret = masked := h _ List.suffix_rfl _ found
    rw [ih (h.of_suffix (List.suffix_append _ rest)), isMask]

end Rule.Settled

/-! ### What one pass leaves -/

/-- What tells the leads of a rule apart from each other and from masks: a character that begins
each of them and that each has `n` times. -/
structure Rule.Marked (rule : Rule) (IsLead : List Char → Prop) (ofSecret : Char → Bool)
    (mark : Char) (n : Nat) : Prop where
  seeks : rule.Seeks IsLead ofSecret
  eq_cons {lead : List Char} : IsLead lead → ∃ behind, lead = mark :: behind
  count_eq {lead : List Char} : IsLead lead → lead.count mark = n
  noMask {lead : List Char} : IsLead lead → '<' ∉ lead
  masked_ofSecret : ∀ c ∈ masked, ofSecret c = true
  masked_ne : ∀ c ∈ masked, c ≠ mark

namespace Rule.Marked

variable {rule : Rule} {IsLead : List Char → Prop} {ofSecret : Char → Bool} {mark : Char} {n : Nat}

theorem ne_nil (marked : rule.Marked IsLead ofSecret mark n) {lead : List Char}
    (isLead : IsLead lead) : lead ≠ [] := by
  obtain ⟨behind, rfl⟩ := marked.eq_cons isLead
  exact List.cons_ne_nil _ _

/-- A lead that lies within another begins where the other does. -/
theorem eq_nil_of_within (marked : rule.Marked IsLead ofSecret mark n)
    {before lead behind : List Char} (outer : IsLead (before ++ lead ++ behind))
    (inner : IsLead lead) : before = [] := by
  cases before with
  | nil => rfl
  | cons c before =>
    obtain ⟨_, same⟩ := marked.eq_cons outer
    obtain rfl := (List.cons.inj same).1
    have whole := marked.count_eq outer
    have part := marked.count_eq inner
    simp only [List.cons_append, List.count_cons_self, List.count_append] at whole
    omega

/-- Where the rule finds nothing, it still finds nothing once all that stands behind is masked. -/
theorem eq_none_of_none (marked : rule.Marked IsLead ofSecret mark n) {c : Char} {rest : List Char}
    (h : rule (c :: rest) = none) : rule (c :: mask rule rest) = none := by
  rw [Option.eq_none_iff_forall_ne_some]
  intro finding found
  rcases marked.seeks.mask_eq_or_masks rest with
    same | ⟨front, lead, secret, rest, inner, rfl, after⟩
  · rw [same, h] at found
    cases found
  obtain ⟨outer, d, ahead, split, first, -⟩ := (marked.seeks _ _).1 found
  have apart (more : List Char) : c :: front ++ lead ++ more ≠ finding.lead := by
    intro whole
    rw [← whole] at outer
    exact absurd (marked.eq_nil_of_within outer inner) (List.cons_ne_nil c front)
  rw [after, ← List.cons_append, ← List.cons_append] at split
  rcases List.append_eq_append_iff.1 split with ⟨more, whole, -⟩ | ⟨more, whole, behind⟩
  -- The new lead would hold the old one, and begin in front of it.
  · exact apart more whole.symm
  · cases more with
    | nil => exact apart [] (by simpa using whole)
    | cons e more =>
      -- The secret begins in front of the first mask, so it was there before.
      obtain rfl := (List.cons.inj behind).1
      have before : c :: (front ++ lead ++ (secret ++ rest)) =
          finding.lead ++ d :: (more ++ (secret ++ rest)) := by
        rw [← List.cons_append, ← List.cons_append, whole]
        simp
      rw [before, marked.seeks.eq_some outer first] at h
      cases h

/-- A mask ends where the secret did. -/
theorem takeWhile_masked (marked : rule.Marked IsLead ofSecret mark n)
    {lead secret rest : List Char} (found : rule (lead ++ secret ++ rest) = some ⟨lead, secret⟩) :
    (masked ++ mask rule rest).takeWhile ofSecret = masked := by
  obtain ⟨-, c, ahead, split, -, taken⟩ := (marked.seeks _ _).1 found
  rw [List.append_assoc, List.append_cancel_left_eq] at split
  rw [← split] at taken
  have allSecret : ∀ d ∈ secret, ofSecret d = true := by
    change secret = _ at taken
    rw [taken]
    exact fun d mem => List.mem_takeWhile_imp mem
  rw [List.takeWhile_append_of_pos allSecret, List.self_eq_append_right] at taken
  rw [List.takeWhile_append_of_pos marked.masked_ofSecret, List.append_right_eq_self]
  cases rest with
  | nil => rfl
  | cons d rest =>
    obtain ⟨more, same⟩ := marked.seeks.mask_eq_cons (fun _ => marked.ne_nil) d rest
    have stop : ¬ofSecret d = true := by simpa [List.takeWhile_cons] using taken
    rw [same, List.takeWhile_cons_of_neg stop]

/-- A lead does not reach into a mask. -/
theorem ends_before_mask (marked : rule.Marked IsLead ofSecret mark n)
    {part lead out ahead : List Char} {c : Char} (isLead : IsLead lead)
    (split : part ++ (masked ++ out) = lead ++ c :: ahead) :
    ∃ more, part = lead ++ more ∧ c :: ahead = more ++ (masked ++ out) := by
  rcases List.append_eq_append_iff.1 split with ⟨more, rfl, behind⟩ | inside
  · cases more with
    | nil => exact ⟨[], by simp, by simpa using behind.symm⟩
    | cons d more =>
      obtain rfl : '<' = d := (List.cons.inj behind).1
      exact absurd (List.mem_append_right part List.mem_cons_self) (marked.noMask isLead)
  · exact inside

/-- Nothing is found at the characters of a mask. -/
theorem settled_masked_append (marked : rule.Marked IsLead ofSecret mark n) {rest : List Char}
    (h : rule.Settled rest) : rule.Settled (masked ++ rest) := by
  refine h.append fun part inside some_part finding found => ?_
  cases part with
  | nil => exact absurd rfl some_part
  | cons c part =>
    have other := marked.masked_ne c (inside.subset List.mem_cons_self)
    rw [List.cons_append, marked.seeks.eq_none_of_ne (fun _ => marked.eq_cons) other] at found
    cases found

/-- Around a mask that has just been set the rule finds only masks. -/
theorem settled_masked (marked : rule.Marked IsLead ofSecret mark n) {lead secret rest : List Char}
    (found : rule (lead ++ secret ++ rest) = some ⟨lead, secret⟩)
    (h : rule.Settled (mask rule rest)) :
    rule.Settled (lead ++ masked ++ mask rule rest) := by
  rw [List.append_assoc]
  refine (marked.settled_masked_append h).append fun part inside _ finding found' => ?_
  obtain ⟨before, rfl⟩ := inside
  obtain ⟨outer, -⟩ := (marked.seeks _ _).1 found
  obtain ⟨inner, c, ahead, split, first, taken⟩ := (marked.seeks _ _).1 found'
  obtain ⟨more, rfl, behind⟩ := marked.ends_before_mask inner split
  rw [taken, behind]
  cases more with
  | nil => exact marked.takeWhile_masked found
  | cons d more =>
    -- Then the rule would have found the shorter lead in the first place.
    obtain rfl := (List.cons.inj behind).1
    rw [← List.append_assoc] at outer
    obtain rfl := marked.eq_nil_of_within outer inner
    have shorter : rule ([] ++ (finding.lead ++ c :: more) ++ secret ++ rest) =
        some ⟨finding.lead, (c :: (more ++ secret ++ rest)).takeWhile ofSecret⟩ := by
      rw [← marked.seeks.eq_some inner first]
      simp
    rw [found] at shorter
    simp at shorter

/-- After a pass of a rule it finds only masks. -/
theorem settled_mask (marked : rule.Marked IsLead ofSecret mark n) (chars : List Char) :
    rule.Settled (mask rule chars) := by
  refine marked.seeks.honest.induction (motive := fun _ result => rule.Settled result) ?_
    (fun c rest none ih => ?_) (fun lead secret rest found _ ih => marked.settled_masked found ih)
    chars
  · intro rest suffix finding found
    obtain ⟨isLead, d, ahead, same, -⟩ := (marked.seeks _ _).1 found
    rw [List.suffix_nil.1 suffix] at same
    simp at same
  · refine ih.cons fun finding found => ?_
    rw [marked.eq_none_of_none none] at found
    cases found

end Rule.Marked

/-! ### The two rules -/

/-- The leads of bearer tokens have one `B`, which masks have not. -/
theorem marked_bearerRule : bearerRule.Marked BearerLead isBearerChar 'B' 1 where
  seeks := seeks_bearerRule
  eq_cons isLead := isLead.eq_cons
  count_eq := by
    rintro _ ⟨blanks, -, allBlank, rfl⟩
    have none : 'B' ∉ blanks := fun mem => absurd (allBlank _ mem) (by decide)
    rw [List.count_append, List.count_eq_zero_of_not_mem none]
    rfl
  noMask := by
    rintro _ ⟨blanks, -, allBlank, rfl⟩ mem
    rcases List.mem_append.1 mem with mem | mem
    · exact absurd mem (by decide)
    · exact absurd (allBlank _ mem) (by decide)
  masked_ofSecret := by decide
  masked_ne := by decide

/-- The leads of token members have three quotes, which masks have not. -/
theorem marked_tokenRule : tokenRule.Marked TokenLead (· ≠ '"') '"' 3 where
  seeks := seeks_tokenRule
  eq_cons isLead := isLead.eq_cons
  count_eq isLead := isLead.count_quote
  noMask := by
    intro lead isLead
    obtain ⟨name, mem, between, colon, rfl⟩ := tokenLead_iff.1 isLead
    have noKey : ∀ name ∈ keyStretches, '<' ∉ name := by decide
    have noColon : '<' ∉ between := fun mem => absurd (eq_of_isColon colon _ mem) (by decide)
    simp [noKey name mem, noColon]
  masked_ofSecret := by decide
  masked_ne := by decide

/-! ### The second pass keeps what the first has done -/

/-- A bearer token ends at the next quote, and up to there masking token members changes nothing. -/
theorem bearerRule_mask_tokenRule (chars : List Char) :
    bearerRule (mask tokenRule chars) = bearerRule chars := by
  by_cases quoted : '"' ∈ chars
  · obtain ⟨front, rest, rfl, free⟩ := List.eq_append_cons_of_mem quoted
    obtain ⟨more, same⟩ := seeks_tokenRule.mask_eq_cons (fun _ h => h.ne_nil) '"' rest
    rw [mask_tokenRule_append free, same, bearerRule_append_quote, bearerRule_append_quote]
  · have same := mask_tokenRule_append quoted []
    rw [List.append_nil] at same
    rw [same]
    simp [mask, maskAfter]

theorem TokenLead.eq_append_quote {lead : List Char} (h : TokenLead lead) :
    ∃ front, lead = front ++ ['"'] := by
  obtain ⟨key, -, before, after, -, -, rfl⟩ := h
  exact ⟨_, rfl⟩

/-- To mask token members brings no bearer token back. -/
theorem settled_bearerRule_mask_tokenRule {chars : List Char} (h : bearerRule.Settled chars) :
    bearerRule.Settled (mask tokenRule chars) := by
  refine honest_tokenRule.induction (motive := fun chars result =>
      bearerRule.Settled chars → bearerRule.Settled result) id
    (fun c rest none ih h => ?_) (fun lead secret rest found _ ih h => ?_) chars h
  · refine (ih (h.of_suffix (List.suffix_cons c rest))).cons fun finding found => ?_
    rw [← mask_cons_of_none none, bearerRule_mask_tokenRule] at found
    exact h _ List.suffix_rfl finding found
  · have behind := ih (h.of_suffix (List.suffix_append _ rest))
    have fromMask := marked_bearerRule.settled_masked_append behind
    rw [List.append_assoc]
    refine fromMask.append fun part inside some_part finding hit => ?_
    -- A stretch that ends with the lead is followed by a quote, with the secret as with the mask.
    obtain ⟨front, rfl⟩ := ((seeks_tokenRule _ _).1 found).1.eq_append_quote
    rcases List.suffix_concat_iff.1 inside with rfl | ⟨stretch, rfl, within⟩
    · exact absurd rfl some_part
    · rw [List.append_assoc, List.singleton_append, bearerRule_append_quote,
        ← bearerRule_append_quote stretch (secret ++ rest)] at hit
      obtain ⟨before, rfl⟩ := within
      refine h _ ⟨before, ?_⟩ finding hit
      simp

/-- What is left in a redacted text. -/
theorem covered_redactChars (chars : List Char) :
    Covered BearerLead isBearerChar (redactChars chars) ∧
      Covered TokenLead (· ≠ '"') (redactChars chars) ∧
        redactChars (redactChars chars) = redactChars chars := by
  have bearers : bearerRule.Settled (redactChars chars) :=
    settled_bearerRule_mask_tokenRule (marked_bearerRule.settled_mask chars)
  have members : tokenRule.Settled (redactChars chars) :=
    marked_tokenRule.settled_mask (mask bearerRule chars)
  refine ⟨bearers.covered seeks_bearerRule, members.covered seeks_tokenRule, ?_⟩
  rw [redactChars, bearers.mask_eq honest_bearerRule, members.mask_eq honest_tokenRule]

end Redaction

/-! ### What looks like a secret -/

/-- White space, by the code points that have this property. -/
def IsWhiteSpace (c : Char) : Prop :=
  c.toNat ∈ [0x09, 0x0A, 0x0B, 0x0C, 0x0D, 0x20, 0x85, 0xA0, 0x1680, 0x2000, 0x2001, 0x2002, 0x2003,
    0x2004, 0x2005, 0x2006, 0x2007, 0x2008, 0x2009, 0x200A, 0x2028, 0x2029, 0x202F, 0x205F, 0x3000]

instance : DecidablePred IsWhiteSpace := fun c =>
  inferInstanceAs (Decidable (c.toNat ∈ _))

/-- The ranges of blanks list the characters that are white space. -/
theorem isBlank_iff_isWhiteSpace {c : Char} : isBlank c = true ↔ IsWhiteSpace c := by
  simp only [isBlank, blanks, CodeRanges.contains, IsWhiteSpace, List.any_cons, List.any_nil,
    Bool.or_eq_true, Bool.and_eq_true, decide_eq_true_eq, Bool.false_eq_true, List.mem_cons,
    List.not_mem_nil, or_false]
  omega

/-- A bearer token goes on up to white space, a quote or a comma. -/
theorem isBearerChar_eq :
    Redaction.isBearerChar = fun c => decide (¬IsWhiteSpace c ∧ c ∉ ['\'', '"', ',']) := by
  funext c
  rw [Bool.eq_iff_iff, decide_eq_true_iff, ← isBlank_iff_isWhiteSpace]
  simp [Redaction.isBearerChar, and_assoc]

open Redaction

/-- **Nothing that looks like a secret is left.** Wherever in a redacted text the word `Bearer` and
white space lead up to a character that is neither white space nor a quote nor a comma, the run of
such characters is the mask; and wherever a quoted token key, a colon and a quote lead up to
anything but a quote, with white space around the colon or not, what comes up to the next quote is
the mask.
Redacting the text again changes nothing. This is so for every text, with candidates that overlap
and with candidates that only come about by masking. -/
theorem redact_leaves_no_secret (text : String) :
    (∀ front white c behind,
      (redact text).toList = front ++ "Bearer".toList ++ white ++ c :: behind →
      white ≠ [] → (∀ w ∈ white, IsWhiteSpace w) → (¬IsWhiteSpace c ∧ c ∉ ['\'', '"', ',']) →
        (c :: behind).takeWhile (fun d => ¬IsWhiteSpace d ∧ d ∉ ['\'', '"', ',']) =
          "<REDACTED>".toList) ∧
    (∀ front key before after c behind,
      key ∈ ["machineToken", "resourceToken", "contractToken", "token"] →
      (redact text).toList = front ++ '"' :: key.toList ++ '"' :: before ++ ':' :: after ++
        '"' :: c :: behind →
      (∀ w ∈ before ++ after, IsWhiteSpace w) → c ≠ '"' →
        (c :: behind).takeWhile (· ≠ '"') = "<REDACTED>".toList) ∧
    redact (redact text) = redact text := by
  have chars : (redact text).toList = redactChars text.toList := String.toList_ofList
  obtain ⟨bearers, members, again⟩ := covered_redactChars text.toList
  rw [← chars] at bearers members
  -- What stands in front of a secret is put together to the lead of its rule.
  refine ⟨fun front white c behind split some_white blank ofToken => ?_,
    fun front key before after c behind isKey split blank other => ?_, ?_⟩
  · have isLead : BearerLead (bearer ++ white) :=
      ⟨white, some_white, fun w mem => isBlank_iff_isWhiteSpace.2 (blank w mem), rfl⟩
    rw [isBearerChar_eq] at bearers
    refine bearers front (bearer ++ white) c behind ?_ isLead (decide_eq_true ofToken)
    rw [split, bearer, List.append_assoc front]
  · have isLead : TokenLead ('"' :: key.toList ++ '"' :: before ++ ':' :: after ++ ['"']) := by
      refine ⟨key, isKey, before, after, fun w mem => ?_, fun w mem => ?_, rfl⟩
      · exact isBlank_iff_isWhiteSpace.2 (blank w (List.mem_append_left _ mem))
      · exact isBlank_iff_isWhiteSpace.2 (blank w (List.mem_append_right _ mem))
    refine members front _ c behind ?_ isLead (by simpa using other)
    rw [split]
    simp
  · rw [redact, chars, again]
    rfl

/-- A secret that begins a second header, and one that is the key of a second member. -/
theorem redact_leaves_no_secret_overlapping :
    let text := "Bearer oneBearer two, \"token\":\"token\":\"three\""
    let shown := "Bearer <REDACTED> two, \"token\":\"<REDACTED>\":\"three\""
    redact text = shown ∧ redact shown = shown := by
  intro text shown
  have once : redact text = shown := by decide +kernel
  have again := (redact_leaves_no_secret text).2.2
  rw [once] at again
  exact ⟨once, again⟩

end Subscription
