import Mathlib.Data.List.TakeWhile
import Subscription.Proofs.Text.Characters
import Subscription.Redaction

/-!
# What masking does to a text

A text is masked piece by piece: a character at which the rule finds nothing stays, and a finding
is left with its secret masked, whatever stands behind it (`mask_cons_of_none`,
`mask_append_of_some`). So a masked text is the text itself, or it shows a mask
(`mask_eq_or_mem`).

Rules look for words and take what comes next of some class of characters. Neither reaches over a
character that is in no word and in no class, which is what cuts a text into stretches.
-/

namespace Subscription

namespace Redaction

/-! ### One finding at a time -/

theorem maskAfter_append (rule : Rule) (passed rest : List Char) :
    maskAfter rule passed.length (passed ++ rest) = mask rule rest := by
  induction passed with
  | nil => rfl
  | cons c passed ih =>
    rw [List.length_cons, List.cons_append, maskAfter]
    exact ih

theorem mask_cons_of_none {rule : Rule} {c : Char} {rest : List Char}
    (h : rule (c :: rest) = none) : mask rule (c :: rest) = c :: mask rule rest := by
  rw [mask, maskAfter, h]
  rfl

/-- A finding stays with its secret masked, and masking goes on behind it. -/
theorem mask_append_of_some {rule : Rule} {lead secret rest : List Char} (some_secret : secret ≠ [])
    (h : rule (lead ++ secret ++ rest) = some ⟨lead, secret⟩) :
    mask rule (lead ++ secret ++ rest) = lead ++ masked ++ mask rule rest := by
  cases found : lead ++ secret with
  | nil => exact absurd (List.append_eq_nil_iff.1 found).2 some_secret
  | cons c passed =>
    have length : lead.length + secret.length - 1 = passed.length := by
      rw [← List.length_append, found, List.length_cons, Nat.add_sub_cancel]
    rw [found, List.cons_append] at h
    rw [List.cons_append, mask, maskAfter, h]
    simp only [length, maskAfter_append]

/-- The rule finds only what lies directly ahead, and a secret has at least one character. -/
def Rule.Honest (rule : Rule) : Prop :=
  ∀ chars finding, rule chars = some finding →
    finding.secret ≠ [] ∧ ∃ rest, chars = finding.lead ++ finding.secret ++ rest

/-- Masking goes through a text by findings and by characters that begin none. -/
theorem Rule.Honest.induction {rule : Rule} (honest : rule.Honest)
    {motive : List Char → List Char → Prop} (nil : motive [] [])
    (kept : ∀ c rest, rule (c :: rest) = none → motive rest (mask rule rest) →
      motive (c :: rest) (c :: mask rule rest))
    (found : ∀ lead secret rest, rule (lead ++ secret ++ rest) = some ⟨lead, secret⟩ →
      secret ≠ [] → motive rest (mask rule rest) →
      motive (lead ++ secret ++ rest) (lead ++ masked ++ mask rule rest)) (chars : List Char) :
    motive chars (mask rule chars) := by
  match chars with
  | [] => exact nil
  | c :: rest =>
    cases h : rule (c :: rest) with
    | none =>
      rw [mask_cons_of_none h]
      exact kept c rest h (honest.induction nil kept found rest)
    | some finding =>
      obtain ⟨some_secret, behind, same⟩ := honest _ _ h
      rw [same] at h
      -- A secret takes up at least one character, so the text behind a finding is shorter.
      have shorter : behind.length ≤ rest.length := by
        have some_letter := List.length_pos_iff.2 some_secret
        have lengths := congrArg List.length same
        simp only [List.length_cons, List.length_append] at lengths
        omega
      rw [same, mask_append_of_some some_secret h]
      exact found _ _ behind h some_secret (honest.induction nil kept found behind)
termination_by chars.length

/-- Masking leaves a text as it is, or it does so up to the first finding. -/
theorem mask_eq_or_first {rule : Rule} (honest : rule.Honest) (chars : List Char) :
    mask rule chars = chars ∨ ∃ front lead secret rest,
      rule (lead ++ secret ++ rest) = some ⟨lead, secret⟩ ∧
      chars = front ++ lead ++ (secret ++ rest) ∧
      mask rule chars = front ++ lead ++ (masked ++ mask rule rest) := by
  refine honest.induction (motive := fun chars result => result = chars ∨
      ∃ front lead secret rest, rule (lead ++ secret ++ rest) = some ⟨lead, secret⟩ ∧
        chars = front ++ lead ++ (secret ++ rest) ∧
        result = front ++ lead ++ (masked ++ mask rule rest))
    (.inl rfl) (fun c rest _ ih => ?_) (fun lead secret rest found _ _ => .inr ?_) chars
  · rcases ih with same | ⟨front, lead, secret, behind, found, before, after⟩
    · exact .inl (congrArg _ same)
    · exact .inr ⟨c :: front, lead, secret, behind, found, congrArg _ before, congrArg _ after⟩
  · exact ⟨[], lead, secret, rest, found, List.append_assoc _ _ _, List.append_assoc _ _ _⟩

/-- Masking leaves a text as it is, or shows a mask in it. -/
theorem mask_eq_or_mem {rule : Rule} (honest : rule.Honest) (chars : List Char) :
    mask rule chars = chars ∨ '<' ∈ mask rule chars := by
  refine (mask_eq_or_first honest chars).imp_right ?_
  rintro ⟨front, lead, secret, rest, -, -, after⟩
  have shown : '<' ∈ masked := by decide
  rw [after]
  exact List.mem_append_right _ (List.mem_append_left _ shown)

/-- Masking brings in no characters but those of the mask. -/
theorem mem_of_mem_mask {rule : Rule} (honest : rule.Honest) {chars : List Char} {c : Char}
    (h : c ∈ mask rule chars) : c ∈ chars ∨ c ∈ masked := by
  refine honest.induction (motive := fun chars result => c ∈ result → c ∈ chars ∨ c ∈ masked)
    .inl (fun first rest _ ih mem => ?_) (fun lead secret rest _ _ ih mem => ?_) chars h
  · rcases List.mem_cons.1 mem with rfl | mem
    · exact .inl List.mem_cons_self
    · exact (ih mem).imp_left (List.mem_cons_of_mem first)
  · simp only [List.mem_append] at mem ⊢
    rcases mem with (mem | mem) | mem
    · exact .inl (.inl (.inl mem))
    · exact .inr mem
    · exact (ih mem).imp_left .inr

/-- A mask takes room, so that no text is masked away. -/
theorem mask_ne_nil {rule : Rule} (honest : rule.Honest) {chars : List Char} (h : chars ≠ []) :
    mask rule chars ≠ [] := by
  rcases mask_eq_or_mem honest chars with same | shown
  · rwa [same]
  · exact List.ne_nil_of_mem shown

/-- What stands in front of all findings stays as it is. -/
theorem mask_append_of_forall_none {rule : Rule} {front rest : List Char}
    (h : ∀ c ∈ front, ∀ behind, rule (c :: behind) = none) :
    mask rule (front ++ rest) = front ++ mask rule rest := by
  induction front with
  | nil => rfl
  | cons c front ih =>
    have ⟨first, others⟩ := List.forall_mem_cons.1 h
    rw [List.cons_append, mask_cons_of_none (first _), ih others, List.cons_append]

/-! ### Secrets behind what leads up to them -/

/-- A secret is all that comes next of its characters, if one of them comes next. -/
theorem secretOf_eq_some_iff {ofSecret : Char → Bool} {lead ahead : List Char} {finding : Finding} :
    secretOf ofSecret lead ahead = some finding ↔
      finding.lead = lead ∧ ∃ c rest, ahead = c :: rest ∧ ofSecret c = true ∧
        finding.secret = ahead.takeWhile ofSecret := by
  cases ahead with
  | nil => simp [secretOf]
  | cons c rest =>
    by_cases first : ofSecret c = true
    · rw [secretOf, List.takeWhile_cons_of_pos first]
      constructor
      · intro found
        obtain rfl := Option.some.inj found
        exact ⟨rfl, c, rest, rfl, first, rfl⟩
      · rintro ⟨rfl, -, -, -, -, secret⟩
        exact congrArg some (congrArg (Finding.mk finding.lead) secret.symm)
    · rw [secretOf, List.takeWhile_cons_of_neg first]
      refine iff_of_false (by simp) ?_
      rintro ⟨-, d, more, same, other, -⟩
      obtain rfl := (List.cons.inj same).1
      exact first other

/-- The rule finds a secret behind whatever leads up to one and nowhere else, and the secret is all
that comes next of its characters. -/
def Rule.Seeks (rule : Rule) (IsLead : List Char → Prop) (ofSecret : Char → Bool) : Prop :=
  ∀ chars finding, rule chars = some finding ↔
    IsLead finding.lead ∧ ∃ c ahead, chars = finding.lead ++ c :: ahead ∧ ofSecret c = true ∧
      finding.secret = (c :: ahead).takeWhile ofSecret

namespace Rule.Seeks

variable {rule : Rule} {IsLead : List Char → Prop} {ofSecret : Char → Bool}

/-- A rule that seeks finds only what is there. -/
theorem honest (seeks : rule.Seeks IsLead ofSecret) : rule.Honest := by
  intro chars finding h
  obtain ⟨-, c, ahead, rfl, first, secret⟩ := (seeks chars finding).1 h
  refine ⟨?_, (c :: ahead).dropWhile ofSecret, ?_⟩
  · rw [secret, List.takeWhile_cons_of_pos first]
    exact List.cons_ne_nil _ _
  · rw [secret, List.append_assoc, List.takeWhile_append_dropWhile]

theorem eq_some (seeks : rule.Seeks IsLead ofSecret) {lead : List Char} (isLead : IsLead lead)
    {c : Char} (first : ofSecret c = true) (ahead : List Char) :
    rule (lead ++ c :: ahead) = some ⟨lead, (c :: ahead).takeWhile ofSecret⟩ :=
  (seeks _ _).2 ⟨isLead, c, ahead, rfl, first, rfl⟩

/-- Behind a lead, all that comes next of the secret is masked. -/
theorem mask_append (seeks : rule.Seeks IsLead ofSecret) {lead : List Char} (isLead : IsLead lead)
    {c : Char} (first : ofSecret c = true) (ahead : List Char) :
    mask rule (lead ++ c :: ahead) =
      lead ++ masked ++ mask rule ((c :: ahead).dropWhile ofSecret) := by
  have some_secret : (c :: ahead).takeWhile ofSecret ≠ [] := by
    rw [List.takeWhile_cons_of_pos first]
    exact List.cons_ne_nil _ _
  have whole : lead ++ c :: ahead = lead ++ (c :: ahead).takeWhile ofSecret ++
      (c :: ahead).dropWhile ofSecret := by
    rw [List.append_assoc, List.takeWhile_append_dropWhile]
  have found := seeks.eq_some isLead first ahead
  rw [whole] at found ⊢
  exact mask_append_of_some some_secret found

/-- Nothing is found at a character that begins no lead. -/
theorem eq_none_of_ne (seeks : rule.Seeks IsLead ofSecret) {first : Char}
    (begins : ∀ lead, IsLead lead → ∃ behind, lead = first :: behind) {c : Char} (h : c ≠ first)
    (rest : List Char) : rule (c :: rest) = none := by
  rw [Option.eq_none_iff_forall_ne_some]
  intro finding found
  obtain ⟨isLead, d, ahead, same, -, -⟩ := (seeks _ _).1 found
  obtain ⟨behind, lead⟩ := begins _ isLead
  rw [lead] at same
  exact h (List.cons.inj same).1

/-- Masking leaves the first character as it is. -/
theorem mask_eq_cons (seeks : rule.Seeks IsLead ofSecret)
    (some_lead : ∀ lead, IsLead lead → lead ≠ []) (c : Char) (rest : List Char) :
    ∃ more, mask rule (c :: rest) = c :: more := by
  cases found : rule (c :: rest) with
  | none => exact ⟨_, mask_cons_of_none found⟩
  | some finding =>
    obtain ⟨some_secret, behind, same⟩ := seeks.honest _ _ found
    have isLead := ((seeks _ _).1 found).1
    rw [same] at found ⊢
    rw [mask_append_of_some some_secret found]
    cases lead : finding.lead with
    | nil => exact absurd lead (some_lead _ isLead)
    | cons first before =>
      rw [lead] at same
      obtain rfl := (List.cons.inj same).1
      exact ⟨_, rfl⟩

/-- Masking leaves a text as it is, or it does so up to the first secret. -/
theorem mask_eq_or_masks (seeks : rule.Seeks IsLead ofSecret) (chars : List Char) :
    mask rule chars = chars ∨ ∃ front lead secret rest, IsLead lead ∧
      chars = front ++ lead ++ (secret ++ rest) ∧
      mask rule chars = front ++ lead ++ (masked ++ mask rule rest) := by
  refine (mask_eq_or_first seeks.honest chars).imp_right ?_
  rintro ⟨front, lead, secret, rest, found, before, after⟩
  exact ⟨front, lead, secret, rest, ((seeks _ _).1 found).1, before, after⟩

end Rule.Seeks

/-! ### Words and stretches -/

/-- A word without the stop character is found in front of it or not at all. -/
theorem behind?_append_cons {word : List Char} {stop : Char} (h : stop ∉ word)
    (front rest : List Char) :
    behind? word (front ++ stop :: rest) = (behind? word front).map (· ++ stop :: rest) := by
  induction word generalizing front with
  | nil => simp [behind?]
  | cons letter word ih =>
    obtain ⟨different, others⟩ := List.ne_and_not_mem_of_not_mem_cons h
    cases front with
    | nil => simp [behind?, Ne.symm different]
    | cons c front =>
      simp only [List.cons_append, behind?]
      split
      · exact ih others front
      · rfl

/-- A stretch is all that comes before its quote. -/
theorem takeWhile_stretch {front : List Char} (h : '"' ∉ front) (rest : List Char) :
    (front ++ '"' :: rest).takeWhile (· ≠ '"') = front := by
  rw [takeWhile_append_cons (by simp), List.takeWhile_eq_self_iff]
  intro c mem
  simp only [ne_eq, decide_not, Bool.not_eq_true', decide_eq_false_iff_not]
  rintro rfl
  exact h mem

end Redaction

end Subscription
