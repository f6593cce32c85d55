import Subscription.Contract.Client
import Subscription.Http.Server
import Subscription.Proofs.Action
import Subscription.Proofs.Redaction.Rules
import Subscription.Proofs.Text.Quoted
import Subscription.Store.Memory

/-!
# What the log shows of a bearer token

A bearer token goes into the header fields of a request between quotes, and there the log masks it
up to the first character that cannot be part of a bearer token: a space, a quote of either kind, or
a comma. Every other blank is escaped between quotes and is masked like any other character. So a
token is masked as a whole exactly if it has none of these four characters, and of any other token
the log shows what stands behind the first of them (`Client.masks_token_up_to_stop`).
-/

namespace Subscription

open Redaction

/-! ### Tokens between quotes -/

namespace Redaction

/-- The characters of a token at which the log stops masking it. -/
def tokenStops : List Char := [' ', '\'', '"', ',']

theorem isBearerChar_of_notMem {c : Char} (stop : c ∉ tokenStops) (shown : isPrintable c = true) :
    isBearerChar c = true := by
  simp only [tokenStops, List.mem_cons, List.not_mem_nil, or_false, not_or] at stop
  obtain ⟨space, single, double, comma⟩ := stop
  have noBlank : isBlank c = false := by
    rw [← Bool.not_eq_true]
    intro blank
    exact Bool.false_ne_true ((isPrintable_of_isBlank blank space).symm.trans shown)
  simp [isBearerChar, noBlank, single, double, comma]

private theorem isBearerChar_hexDigits (n : Nat) :
    ∀ c ∈ Nat.toDigits 16 n, isBearerChar c = true := by
  have digit : ∀ k < 16, isBearerChar (Nat.digitChar k) = true := by decide
  induction n using Nat.strongRecOn with
  | ind n ih =>
    rw [Nat.toDigits_eq_if (by decide)]
    split
    · next small => simpa using digit n small
    · next large =>
      rw [List.forall_mem_append]
      refine ⟨ih (n / 16) (by omega), ?_⟩
      simpa using digit (n % 16) (Nat.mod_lt n (by decide))

/-- Between quotes a character that does not stop the masking is masked as a whole. -/
theorem isBearerChar_of_mem_escape {c : Char} (stop : c ∉ tokenStops) :
    ∀ d ∈ Quoted.escape c, isBearerChar d = true := by
  by_cases lettered : c ∈ ['\x00', '\t', '\n', '\r', '"', '\\']
  · have all : ∀ c ∈ ['\x00', '\t', '\n', '\r', '"', '\\'], c ∉ tokenStops →
        ∀ d ∈ Quoted.escape c, isBearerChar d = true := by decide
    exact all c lettered stop
  · simp only [List.mem_cons, List.not_mem_nil, or_false, not_or] at lettered
    obtain ⟨null, tab, newLine, back, quote, backslash⟩ := lettered
    simp only [Quoted.escape, null, tab, newLine, back, quote, backslash, if_false]
    split
    · simp only [Quoted.codePoint, List.forall_mem_append]
      exact ⟨⟨by decide, isBearerChar_hexDigits _⟩, by decide⟩
    · next shown =>
      simp only [Bool.or_eq_true, Bool.not_eq_true', not_or, Bool.not_eq_false] at shown
      simpa using isBearerChar_of_notMem stop shown.2

/-- Between quotes a character that stops the masking is not masked as a whole. -/
theorem exists_mem_escape {c : Char} (stop : c ∈ tokenStops) :
    ∃ d ∈ Quoted.escape c, isBearerChar d = false := by
  have all : ∀ c ∈ tokenStops, ∃ d ∈ Quoted.escape c, isBearerChar d = false := by decide +kernel
  exact all c stop

/-- The part of a token that is masked. -/
def maskedPart (token : String) : List Char := token.toList.takeWhile (· ∉ tokenStops)

/-- The part of a token that the log shows. -/
def shownPart (token : String) : List Char := token.toList.dropWhile (· ∉ tokenStops)

/-! ### Header fields in the log -/

/-- What stands in front of the value of the authorization header. -/
def headersFront : List Char := "\x7b\"Authorization\": ".toList

/-- What stands behind the value of the authorization header. -/
def headersBack : List Char :=
  (", \"accept\": \"application/json\", \"content-type\": \"application/json\", " ++
    "\"user-agent\": \"contract-sync/0.1.0\"\x7d").toList

/-- The listing of the headers has the token in one place, escaped and between quotes. -/
theorem listing_headersFor (token : String) :
    (HttpField.listing (Request.headersFor (some token))).toList =
      headersFront ++ '"' :: (bearer ++ ' ' :: token.toList.flatMap Quoted.escape ++
        '"' :: headersBack) := by
  have fields : HttpField.listing (Request.headersFor (some token)) =
      "\x7b" ++ (quote "Authorization" ++ ": " ++ quote ("Bearer " ++ token) ++ ", " ++
        (quote "accept" ++ ": " ++ quote "application/json") ++ ", " ++
        (quote "content-type" ++ ": " ++ quote "application/json") ++ ", " ++
        (quote "user-agent" ++ ": " ++ quote Request.userAgent)) ++ "\x7d" := rfl
  have word : "Bearer ".toList.flatMap Quoted.escape = bearer ++ [' '] :=
    Quoted.flatMap_escape_of_isPlain (by decide)
  have value : (quote ("Bearer " ++ token)).toList =
      '"' :: (bearer ++ ' ' :: token.toList.flatMap Quoted.escape ++ ['"']) := by
    rw [quote, String.toList_ofList, Quoted.chars, String.toList_append, List.flatMap_append, word]
    simp
  have plain {text : String} (h : ∀ c ∈ text.toList, Quoted.isPlain c = true) :=
    toList_quote_of_isPlain h
  have front : "\x7b".toList ++ ((quote "Authorization").toList ++ ": ".toList) =
      headersFront := by
    rw [plain (by decide)]
    decide +kernel
  have back : (", " ++ (quote "accept" ++ ": " ++ quote "application/json") ++ ", " ++
      (quote "content-type" ++ ": " ++ quote "application/json") ++ ", " ++
      (quote "user-agent" ++ ": " ++ quote Request.userAgent) ++ "\x7d").toList = headersBack := by
    simp only [String.toList_append]
    rw [plain (by decide), plain (by decide), plain (by decide), plain (by decide),
      plain (by decide)]
    decide +kernel
  rw [fields, ← front, ← back]
  simp only [String.toList_append, value, List.append_assoc, List.cons_append, List.nil_append]

/-! ### What is left of a bearer token -/

theorem bearerLead_blank : BearerLead (bearer ++ [' ']) := ⟨[' '], by simp, by decide, rfl⟩

/-- A token is masked up to the first character that cannot be part of it. -/
theorem mask_bearerRule_token {ahead : List Char}
    (some_secret : ahead.takeWhile isBearerChar ≠ []) :
    mask bearerRule (bearer ++ ' ' :: ahead) =
      bearer ++ ' ' :: (masked ++ mask bearerRule (ahead.dropWhile isBearerChar)) := by
  cases ahead with
  | nil => exact absurd rfl some_secret
  | cons c rest =>
    have first : isBearerChar c = true := by
      by_contra other
      exact some_secret (List.takeWhile_cons_of_neg other)
    simpa using seeks_bearerRule.mask_append bearerLead_blank first rest

/-- What cannot be part of a token stays in front. -/
theorem mask_bearerRule_noToken {c : Char} (h : isBearerChar c = false) (rest : List Char) :
    ∃ behind, mask bearerRule (bearer ++ ' ' :: c :: rest) = bearer ++ ' ' :: c :: behind := by
  cases found : bearerRule (bearer ++ ' ' :: c :: rest) with
  | none =>
    have other : c ≠ 'B' := by
      rintro rfl
      exact absurd h (by decide)
    have letters : ∀ d ∈ "earer ".toList ++ [c], ∀ behind, bearerRule (d :: behind) = none := by
      intro d mem behind
      refine bearerRule_cons_of_ne ?_ behind
      rintro rfl
      simp [Ne.symm other] at mem
    have word : bearer ++ ' ' :: c :: rest = 'B' :: ("earer ".toList ++ [c] ++ rest) := rfl
    refine ⟨mask bearerRule rest, ?_⟩
    rw [word] at found ⊢
    rw [mask_cons_of_none found, mask_append_of_forall_none letters]
    rfl
  | some finding =>
    obtain ⟨isLead, d, ahead, whole, first, -⟩ := (seeks_bearerRule _ _).1 found
    have masks := seeks_bearerRule.mask_append isLead first ahead
    obtain ⟨blanks, some_blank, -, lead⟩ := isLead
    rw [whole, masks]
    rw [lead, List.append_assoc, List.append_cancel_left_eq] at whole
    rw [lead]
    -- The character is one of the blanks in front of the token, or else it would be part of it.
    match blanks with
    | [] => exact absurd rfl some_blank
    | [_] =>
      obtain ⟨-, behind⟩ := List.cons.inj whole
      obtain rfl := (List.cons.inj behind).1
      exact absurd first (by simp [h])
    | _ :: _ :: more =>
      obtain ⟨rfl, behind⟩ := List.cons.inj whole
      obtain rfl := (List.cons.inj behind).1
      refine ⟨more ++ masked ++ mask bearerRule ((d :: ahead).dropWhile isBearerChar), ?_⟩
      simp

/-- Nothing is found at a quote in front of a letter that no token key begins with. -/
theorem tokenRule_quote_of_ne {c : Char} (h : ∀ name ∈ keyStretches, name.head? ≠ some c)
    (rest : List Char) : tokenRule ('"' :: c :: rest) = none := by
  refine List.findSome?_eq_none_iff.2 fun key mem => ?_
  have other := h key.toList (List.mem_map_of_mem mem)
  have some_key : ∀ key ∈ tokenKeys, key.toList ≠ [] := by decide
  cases letters : key.toList with
  | nil => exact absurd letters (some_key key mem)
  | cons letter letters' =>
    rw [letters] at other
    have other : letter ≠ c := fun same => other (same ▸ rfl)
    simp [memberRule, letters, behind?, other]

/-- In the logged header fields, masking token members begins behind the word of bearer tokens. -/
theorem mask_tokenRule_headers (shown : List Char) :
    mask tokenRule (headersFront ++ '"' :: (bearer ++ ' ' :: shown)) =
      headersFront ++ '"' :: (bearer ++ ' ' :: mask tokenRule shown) := by
  have field (c : Char) (h : ∀ name ∈ keyStretches, name.head? ≠ some c) (more : List Char)
      (free : '"' ∉ c :: more) (rest : List Char) :
      mask tokenRule ('"' :: c :: (more ++ rest)) = '"' :: c :: (more ++ mask tokenRule rest) := by
    rw [mask_cons_of_none (tokenRule_quote_of_ne h _), ← List.cons_append,
      mask_tokenRule_append free, List.cons_append]
  have name := field 'A' (by decide) "uthorization".toList (by decide)
  have colon := field ':' (by decide) [' '] (by decide)
  have word := field 'B' (by decide) "earer ".toList (by decide)
  calc mask tokenRule (headersFront ++ '"' :: (bearer ++ ' ' :: shown))
    _ = mask tokenRule (['{'] ++ ('"' :: 'A' :: ("uthorization".toList ++
          ('"' :: ':' :: ([' '] ++ ('"' :: 'B' :: ("earer ".toList ++ shown))))))) := rfl
    _ = ['{'] ++ ('"' :: 'A' :: ("uthorization".toList ++
          ('"' :: ':' :: ([' '] ++
            ('"' :: 'B' :: ("earer ".toList ++ mask tokenRule shown)))))) := by
      rw [mask_tokenRule_append (by decide), name, colon, word]

/-- The header fields in the log, by what masking bearer tokens leaves of the token. -/
theorem redactChars_headers {ahead shown : List Char}
    (h : mask bearerRule (bearer ++ ' ' :: ahead) = bearer ++ ' ' :: shown) :
    redactChars (headersFront ++ '"' :: (bearer ++ ' ' :: ahead ++ '"' :: headersBack)) =
      headersFront ++ '"' :: (bearer ++ ' ' :: mask tokenRule (shown ++ '"' :: headersBack)) := by
  have front : mask bearerRule headersFront = headersFront :=
    mask_bearerRule_of_forall_ne (by decide +kernel)
  have back : mask bearerRule headersBack = headersBack :=
    mask_bearerRule_of_forall_ne (by decide +kernel)
  rw [redactChars, mask_bearerRule_append_quote, mask_bearerRule_append_quote, front, back, h,
    List.append_assoc, List.cons_append, mask_tokenRule_headers]

/-- The other header fields are no token members. -/
theorem mask_tokenRule_headersBack :
    mask tokenRule ('"' :: headersBack) = '"' :: headersBack := by decide +kernel

/-- Masking token members leaves the first character as it is. -/
theorem head?_mask_tokenRule (c : Char) (rest : List Char) :
    (mask tokenRule (c :: rest)).head? = some c := by
  obtain ⟨more, same⟩ := seeks_tokenRule.mask_eq_cons (fun _ h => h.ne_nil) c rest
  rw [same, List.head?_cons]

/-- The header fields in the log with nothing left of the token. -/
def maskedHeaders : String :=
  "\x7b\"Authorization\": \"Bearer <REDACTED>\", \"accept\": \"application/json\", " ++
    "\"content-type\": \"application/json\", \"user-agent\": \"contract-sync/0.1.0\"\x7d"

/-- Nothing is left of what stands between the quotes if it can all be part of a token. -/
theorem redactChars_headers_eq_iff (ahead : List Char) :
    redactChars (headersFront ++ '"' :: (bearer ++ ' ' :: ahead ++ '"' :: headersBack)) =
        maskedHeaders.toList ↔
      ahead ≠ [] ∧ ∀ c ∈ ahead, isBearerChar c = true := by
  have hidden : maskedHeaders.toList =
      headersFront ++ '"' :: (bearer ++ ' ' :: (masked ++ '"' :: headersBack)) := by decide +kernel
  have cancel (shown : List Char) :
      headersFront ++ '"' :: (bearer ++ ' ' :: shown) = maskedHeaders.toList ↔
        shown = masked ++ '"' :: headersBack := by
    rw [hidden]
    simp
  cases ahead with
  | nil =>
    have nothing : mask bearerRule (bearer ++ ' ' :: []) = bearer ++ ' ' :: [] := by decide +kernel
    rw [redactChars_headers nothing, cancel, List.nil_append, mask_tokenRule_headersBack]
    exact iff_of_false (by decide +kernel) fun h => h.1 rfl
  | cons c rest =>
    by_cases first : isBearerChar c = true
    · have some_secret : (c :: rest).takeWhile isBearerChar ≠ [] := by
        rw [List.takeWhile_cons_of_pos first]
        exact List.cons_ne_nil _ _
      rw [redactChars_headers (mask_bearerRule_token some_secret), cancel, List.append_assoc,
        mask_tokenRule_append (by decide), List.append_cancel_left_eq, ← List.dropWhile_eq_nil_iff,
        and_iff_right (List.cons_ne_nil c rest)]
      constructor
      · intro same
        by_contra left
        -- What is left is shown as it is or with a mask in it, and there is no room for either.
        rcases mask_eq_or_mem honest_tokenRule
            (mask bearerRule ((c :: rest).dropWhile isBearerChar) ++ '"' :: headersBack)
          with kept | shown
        · rw [kept, List.append_left_eq_self] at same
          exact mask_ne_nil honest_bearerRule left same
        · rw [same] at shown
          exact absurd shown (by decide)
      · intro none
        rw [none]
        exact mask_tokenRule_headersBack
    · obtain ⟨behind, nothing⟩ := mask_bearerRule_noToken (by simpa using first) rest
      have different : mask tokenRule (c :: behind ++ '"' :: headersBack) ≠
          masked ++ '"' :: headersBack := by
        intro same
        have heads := congrArg List.head? same
        rw [List.cons_append, head?_mask_tokenRule] at heads
        exact absurd (Option.some.inj heads ▸ first) (by decide)
      rw [redactChars_headers nothing, cancel]
      exact iff_of_false different fun h => first (h.2 c List.mem_cons_self)

/-! ### Tokens in the log -/

/-- What the listing becomes is seen on its characters around the token. -/
theorem redact_listing (token : String) :
    (redact (HttpField.listing (Request.headersFor (some token)))).toList =
      redactChars (headersFront ++ '"' :: (bearer ++ ' ' :: token.toList.flatMap Quoted.escape ++
        '"' :: headersBack)) := by
  rw [redact, String.toList_ofList, listing_headersFor]

/-- A token is masked as a whole if nothing in it stops the masking. -/
theorem redact_listing_eq_iff (token : String) :
    redact (HttpField.listing (Request.headersFor (some token))) = maskedHeaders ↔
      token ≠ "" ∧ ∀ c ∈ token.toList, c ∉ tokenStops := by
  rw [← String.toList_inj, redact_listing, redactChars_headers_eq_iff]
  refine and_congr (not_congr ?_) ⟨fun h c mem stop => ?_, fun h d mem => ?_⟩
  · rw [List.flatMap_eq_nil_iff, ← String.toList_eq_nil_iff, List.eq_nil_iff_forall_not_mem]
    exact forall₂_congr fun c _ => iff_false_intro (Quoted.escape_ne_nil c)
  · obtain ⟨d, inside, stops⟩ := exists_mem_escape stop
    exact Bool.false_ne_true (stops.symm.trans (h d (List.mem_flatMap.2 ⟨c, mem, inside⟩)))
  · obtain ⟨c, mem, inside⟩ := List.mem_flatMap.1 mem
    exact isBearerChar_of_mem_escape (h c mem) d inside

/-- Of a token of which some part is masked, nothing but the part that is shown matters. -/
theorem redact_listing_congr {t u : String} (ht : maskedPart t ≠ []) (hu : maskedPart u ≠ [])
    (same : shownPart t = shownPart u) :
    redact (HttpField.listing (Request.headersFor (some t))) =
      redact (HttpField.listing (Request.headersFor (some u))) := by
  -- Escaping leaves the cut between what is hidden and what is shown where it was.
  have cut (token : String) (some_part : maskedPart token ≠ []) :
      (token.toList.flatMap Quoted.escape).takeWhile isBearerChar ≠ [] ∧
      (token.toList.flatMap Quoted.escape).dropWhile isBearerChar =
        ((shownPart token).flatMap Quoted.escape).dropWhile isBearerChar := by
    have whole : token.toList.flatMap Quoted.escape =
        (maskedPart token).flatMap Quoted.escape ++ (shownPart token).flatMap Quoted.escape := by
      rw [← List.flatMap_append, maskedPart, shownPart, List.takeWhile_append_dropWhile]
    have hidden : ∀ d ∈ (maskedPart token).flatMap Quoted.escape, isBearerChar d = true := by
      intro d mem
      obtain ⟨c, mem, inside⟩ := List.mem_flatMap.1 mem
      have stop := List.all_eq_true.1 List.all_takeWhile c mem
      exact isBearerChar_of_mem_escape (of_decide_eq_true stop) d inside
    have some_secret : (maskedPart token).flatMap Quoted.escape ≠ [] := by
      obtain ⟨c, mem⟩ := List.exists_mem_of_ne_nil _ some_part
      exact fun none => Quoted.escape_ne_nil c (List.flatMap_eq_nil_iff.1 none c mem)
    rw [whole, List.takeWhile_append_of_pos hidden, List.dropWhile_append_of_pos hidden]
    exact ⟨List.append_ne_nil_of_left_ne_nil some_secret _, rfl⟩
  obtain ⟨secret, behind⟩ := cut t ht
  obtain ⟨secret', behind'⟩ := cut u hu
  rw [← String.toList_inj, redact_listing, redact_listing,
    redactChars_headers (mask_bearerRule_token secret),
    redactChars_headers (mask_bearerRule_token secret'), behind, behind', same]

end Redaction

/-! ### Requests in the log -/

/-- The header fields of the requests that were logged. -/
def Journal.loggedHeaders (journal : Journal) : List String :=
  journal.events.filterMap fun
    | .request _ _ headers _ => some headers
    | _ => none

theorem Journal.loggedHeaders_append (journal more : Journal) :
    Journal.loggedHeaders (journal ++ more) = journal.loggedHeaders ++ more.loggedHeaders := by
  simp only [loggedHeaders, events, List.filterMap_append]

/-- A server logs the request, and then the answer if there is one. -/
theorem HttpServer.events_answer (base : String) (network : Network) (journal : Journal)
    (request : Request) :
    (answer base network journal request).1 = [requestEvent (urlFor base request.path) request] ∨
    ∃ status url body, (answer base network journal request).1 =
      [requestEvent (urlFor base request.path) request, .response status url body] := by
  rw [answer]
  cases sent (urlFor base request.path) request with
  | error cause => exact .inl rfl
  | ok sent =>
    dsimp only
    split
    · exact .inl rfl
    · exact .inl rfl
    · exact .inr ⟨_, _, _, rfl⟩

/-- Of the header fields of a request the log shows what masking leaves of them, once. -/
theorem HttpServer.loggedHeaders_answer (base : String) (network : Network) (journal : Journal)
    (request : Request) :
    Journal.loggedHeaders (.requested request ::
        (answer base network journal request).1.map .logged) =
      [redact (HttpField.listing request.headers)] := by
  rcases events_answer base network journal request with events | ⟨status, url, body, events⟩
  · rw [events]
    rfl
  · rw [events]
    rfl

namespace Client

variable {σ : Type}

/-- The header fields in the log once a request was made of a server on a network. -/
def loggedHeaders (env : Environment σ) (base : String) (network : Network) (world : World σ)
    (method : Method) (path : String) (data : Option Json) (token : String) : List String :=
  ((request { env with server := HttpServer.answer base network } method path (some token)
    data).perform world).2.journal.loggedHeaders

/-- A request is logged once, whatever becomes of it. -/
theorem loggedHeaders_eq (env : Environment σ) (base : String) (network : Network)
    (world : World σ) (method : Method) (path : String) (data : Option Json) (token : String) :
    loggedHeaders env base network world method path data token =
      world.journal.loggedHeaders ++
        [redact (HttpField.listing (Request.headersFor (some token)))] := by
  rw [loggedHeaders, request, Action.perform_failingAs, Environment.perform_send,
    Journal.loggedHeaders_append, HttpServer.loggedHeaders_answer]

/-- **What the log shows of a token**: a request made on behalf of a token is logged with the token
masked as a whole exactly if there is one and nothing in it stops the masking. Of a token of which
some part is masked, the log depends on nothing but the part behind it. -/
theorem masks_token_up_to_stop (env : Environment σ) (base : String) (network : Network)
    (world : World σ) (method : Method) (path : String) (data : Option Json) :
    (∀ token, loggedHeaders env base network world method path data token =
        world.journal.loggedHeaders ++ [maskedHeaders] ↔
      token ≠ "" ∧ ∀ c ∈ token.toList, c ∉ tokenStops) ∧
    ∀ t u, maskedPart t ≠ [] → maskedPart u ≠ [] → shownPart t = shownPart u →
      loggedHeaders env base network world method path data t =
        loggedHeaders env base network world method path data u := by
  simp only [loggedHeaders_eq]
  refine ⟨fun token => ?_, fun t u ht hu same => ?_⟩
  · rw [List.append_cancel_left_eq, List.singleton_inj, redact_listing_eq_iff]
  · rw [redact_listing_congr ht hu same]

/-- A machine of which no more is known than its id. -/
def nameless : Environment (Keyed Json) where
  store := .memory
  host := {
    platform := fun _ => .error (.missingField "ID")
    machineId := fun entries => (.ok "machine", entries, []) }
  server := fun _ _ => ([], .error (.connection "" ""))
  processors := []

/-- Two tokens with the same word behind a space. -/
theorem masks_token_up_to_stop_space :
    let logged := loggedHeaders nameless "http://server" (fun _ _ => .dropped) { state := [] }
      .post Request.attachRoute none
    logged "abc" = [maskedHeaders] ∧ logged "abc def" = logged "x def" := by
  have ⟨whole, part⟩ := masks_token_up_to_stop nameless "http://server" (fun _ _ => .dropped)
    { state := [] } .post Request.attachRoute none
  exact ⟨(whole "abc").2 (by decide), part "abc def" "x def" (by decide) (by decide) (by decide)⟩

/-- What stands behind a space in a token is logged. -/
theorem shows_token_behind_space :
    let logged := loggedHeaders nameless "http://server" (fun _ _ => .dropped) { state := [] }
      .post Request.attachRoute none
    logged "abc def" =
      ["\x7b\"Authorization\": \"Bearer <REDACTED> def\", \"accept\": \"application/json\", " ++
        "\"content-type\": \"application/json\", \"user-agent\": \"contract-sync/0.1.0\"\x7d"] ∧
    logged "abc def" ≠ logged "abc" := by
  have shown : redact (HttpField.listing (Request.headersFor (some "abc def"))) =
      "\x7b\"Authorization\": \"Bearer <REDACTED> def\", \"accept\": \"application/json\", " ++
        "\"content-type\": \"application/json\", \"user-agent\": \"contract-sync/0.1.0\"\x7d" := by
    rw [← String.toList_inj, redact_listing, Quoted.flatMap_escape_of_isPlain (by decide),
      redactChars_headers (mask_bearerRule_token (by decide)), mask_tokenRule_append (by decide),
      mask_tokenRule_headersBack]
    decide +kernel
  refine ⟨by rw [loggedHeaders_eq, shown]; rfl, fun same => ?_⟩
  rw [loggedHeaders_eq, loggedHeaders_eq, List.append_cancel_left_eq, List.singleton_inj,
    (redact_listing_eq_iff "abc").2 (by decide), redact_listing_eq_iff] at same
  exact same.2 ' ' (by decide) (by decide)

end Client

end Subscription
