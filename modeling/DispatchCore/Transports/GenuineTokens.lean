import DispatchCore.Transports.ExecutorTokens

/-! Which texts the two decoders of tokens take.  What is compared with a signature may be any
text; what a signature is made over is not the text of a number but the number. -/
namespace DispatchCore.Transports

open DispatchCore.Library DispatchCore.Domain DispatchCore.Infrastructure

def callbackSigLen : Nat := 16

def callbackDataMax : Nat := 64

section tokens

variable (hmacHex : String → String → HexDigest)

/-! ### Callback tokens -/

def encodeCallback (token signingSecret : String) : Except Failure String :=
  if token = "" ∨ 38 < token.toList.length then
    .error (.valueError "callback token length must be between 1 and 38")
  else if ':' ∈ token.toList then
    .error (.valueError "callback token must not contain ':'")
  else if signingSecret = "" then
    .error (.valueError "signing_secret is required")
  else
    let sig := String.ofList ((hmacHex token signingSecret).val.toList.take callbackSigLen)
    let result := s!"dc2:{token}:{sig}"
    if callbackDataMax < result.toList.length then
      .error (.valueError (s!"callback data {result.toList.length} bytes exceeds Telegram limit " ++
        s!"of {callbackDataMax} bytes"))
    else .ok result

/-- `hmac.compare_digest` of a signature and as many letters of a digest -/
def comparePart (signature : List Char) (expected : HexDigest) : Except Failure Bool :=
  if signature.all fun letter => letter.toNat < 128 then
    .ok (decide (signature = expected.val.toList.take signature.length))
  else .error (.typeError "comparing strings with non-ASCII characters is not supported")

def decodeV2 (value signingSecret : String) : Except Failure (Option String) :=
  match Text.fields ':' 2 value.toList with
  | [_, token, sig] =>
      if token = [] ∨ 38 < token.length then .ok none
      else if sig = [] ∨ (sig.length ≠ callbackSigLen ∧ sig.length ≠ 64) then .ok none
      else if signingSecret = "" then .ok none
      else
        (comparePart sig (hmacHex (String.ofList token) signingSecret)).map
          fun same => if same then some (String.ofList token) else none
  | _ => .ok none

def decodeLegacy (value : String) : Option String :=
  let token := value.toList.drop "dc1:".toList.length
  if token ≠ [] ∧ token.length ≤ 48 then some (String.ofList token) else none

def decodeCallback (value signingSecret : String) : Except Failure (Option String) :=
  if "dc2:".toList.isPrefixOf value.toList then decodeV2 hmacHex value signingSecret
  else if "dc1:".toList.isPrefixOf value.toList then .ok (decodeLegacy value)
  else .ok none

/-! ### Genuine tokens -/

/-- A token of the old form, or one that is signed in full or in part. -/
def GenuineCallback (signingSecret value token : String) : Prop :=
  (value = "dc1:" ++ token ∧ 1 ≤ token.toList.length ∧ token.toList.length ≤ 48) ∨
    (':' ∉ token.toList ∧ 1 ≤ token.toList.length ∧ token.toList.length ≤ 38 ∧
      ∃ signature : String, value = s!"dc2:{token}:{signature}" ∧
        (signature = (hmacHex token signingSecret).val ∨
          signature.toList = (hmacHex token signingSecret).val.toList.take callbackSigLen))

/-- The decoder of callbacks answers without raising, and with a token exactly where it is
genuine. -/
def CallbackExact (signingSecret value : String) : Prop :=
  ∃ outcome, decodeCallback hmacHex value signingSecret = .ok outcome ∧
    ∀ token, outcome = some token ↔ GenuineCallback hmacHex signingSecret value token

/-- The text that is made for an actor with some expiry which has not passed. -/
def GenuineExecutor (now : Instant) (signingSecret value : String) (actor : Key) : Prop :=
  ∃ made ttlSeconds token,
    encodeExecutorToken hmacHex made actor.1 actor.2 signingSecret ttlSeconds = .ok token ∧
      token.text = value ∧ ¬expired now token.expiresAt

def ExecutorExact (now : Instant) (signingSecret value : String) : Prop :=
  ∃ outcome, decodeExecutorToken hmacHex now value signingSecret = .ok outcome ∧
    ∀ actor, outcome = some actor ↔ GenuineExecutor hmacHex now signingSecret value actor

/-- A letter that is none of ASCII. -/
def Foreign (letters : List Char) : Prop := ∃ letter ∈ letters, 128 ≤ letter.toNat

/-- A callback of the right shape, with a signature of the right length that is no ASCII text. -/
def ForeignCallback (value : String) : Prop :=
  ∃ token sig : List Char, value.toList = "dc2:".toList ++ (token ++ ':' :: sig) ∧
    ':' ∉ token ∧ 1 ≤ token.length ∧ token.length ≤ 38 ∧
    (sig.length = callbackSigLen ∨ sig.length = 64) ∧ Foreign sig

/-- An executor token of the right shape that has not expired, whose signature is no ASCII text
of the right length, or which is signed and writes its expiry in another way than the encoder. -/
def MisreadExecutor (now : Instant) (signingSecret value : String) : Prop :=
  ∃ (organizationId actorId expires sig : List Char) (expiresAt : Int),
    value.toList = "dt1:".toList ++ (organizationId ++ ':' :: (actorId ++ ':' ::
      (expires ++ ':' :: sig))) ∧
    (':' ∉ organizationId ∧ ':' ∉ actorId ∧ ':' ∉ expires) ∧
    (organizationId ≠ [] ∧ actorId ≠ []) ∧ sig.length = 64 ∧
    Text.int? (String.ofList expires) = some expiresAt ∧ ¬expired now expiresAt ∧
    (Foreign sig ∨
      (sig = (hmacHex (tokenPayload (String.ofList organizationId) (String.ofList actorId)
          expiresAt) signingSecret).val.toList ∧ expires ≠ (toString expiresAt).toList))

variable {hmacHex} {signingSecret value : String} {now : Instant}

theorem comparePart_ok {signature : List Char} (plain : ¬Foreign signature) (digest : HexDigest) :
    comparePart signature digest =
      .ok (decide (signature = digest.val.toList.take signature.length)) := by
  unfold comparePart
  rw [if_pos]
  rw [List.all_eq_true]
  intro letter hmem
  rw [decide_eq_true_eq]
  by_contra h
  exact plain ⟨letter, hmem, not_lt.mp h⟩

theorem comparePart_foreign {signature : List Char} (foreign : Foreign signature)
    (digest : HexDigest) : ∃ failure, comparePart signature digest = .error failure := by
  obtain ⟨letter, hmem, hletter⟩ := foreign
  refine ⟨_, if_neg ?_⟩
  rw [List.all_eq_true]
  intro hall
  exact absurd (decide_eq_true_eq.mp (hall letter hmem)) (not_lt.mpr hletter)

theorem compareDigest_native {signature : List Char} (native : ¬Foreign signature)
    (digest : HexDigest) : compareDigest (String.ofList signature) digest =
      .ok (decide (signature = digest.val.toList)) := by
  unfold compareDigest
  rw [String.toList_ofList, if_pos]
  · congr 2
    rw [← String.toList_inj, String.toList_ofList]
  · rw [List.all_eq_true]
    intro letter hmem
    rw [decide_eq_true_eq]
    by_contra h
    exact native ⟨letter, hmem, not_lt.mp h⟩

theorem compareDigest_foreign {signature : List Char} (foreign : Foreign signature)
    (digest : HexDigest) :
    ∃ failure, compareDigest (String.ofList signature) digest = .error failure := by
  obtain ⟨letter, hmem, hletter⟩ := foreign
  refine ⟨_, if_neg ?_⟩
  rw [String.toList_ofList, List.all_eq_true]
  intro hall
  exact absurd (decide_eq_true_eq.mp (hall letter hmem)) (not_lt.mpr hletter)

theorem not_foreign_take (digest : HexDigest) (count : Nat) :
    ¬Foreign (digest.val.toList.take count) := by
  rintro ⟨letter, hmem, hletter⟩
  exact absurd (digest.property.2 letter (List.mem_of_mem_take hmem)) (not_lt.mpr hletter)

/-! ### The decoder of callbacks -/

theorem signed_toList (token signature : String) :
    s!"dc2:{token}:{signature}".toList =
      "dc2:".toList ++ (token.toList ++ ':' :: signature.toList) := by
  simp [toString]

theorem legacy_ne_signed (first second : List Char) :
    "dc1:".toList ++ first ≠ "dc2:".toList ++ second := by
  simp

/-- What is genuine among the texts of the new form. -/
theorem genuine_signed {token sig : List Char}
    (written : value.toList = "dc2:".toList ++ (token ++ ':' :: sig)) (plain : ':' ∉ token)
    (found : String) :
    GenuineCallback hmacHex signingSecret value found ↔
      found = String.ofList token ∧ 1 ≤ token.length ∧ token.length ≤ 38 ∧
        (sig = (hmacHex (String.ofList token) signingSecret).val.toList ∨
          sig = (hmacHex (String.ofList token) signingSecret).val.toList.take callbackSigLen) := by
  constructor
  · rintro (⟨hvalue, -⟩ | ⟨hplain, hpositive, hshort, signature, hvalue, hsigned⟩)
    · rw [hvalue, String.toList_append] at written
      exact absurd written (legacy_ne_signed _ _)
    · rw [hvalue, signed_toList, List.append_cancel_left_eq, Text.cut_unique hplain plain] at written
      obtain ⟨rfl, rfl⟩ := written
      rw [String.ofList_toList]
      refine ⟨rfl, hpositive, hshort, ?_⟩
      rcases hsigned with hfull | hpart
      · exact .inl (congrArg String.toList hfull)
      · exact .inr hpart
  · rintro ⟨rfl, hpositive, hshort, hsigned⟩
    refine .inr ⟨by rwa [String.toList_ofList], by rwa [String.toList_ofList],
      by rwa [String.toList_ofList], String.ofList sig, ?_, ?_⟩
    · apply String.toList_inj.mp
      simp only [signed_toList, written, String.toList_ofList]
    · rcases hsigned with hfull | hpart
      · exact .inl (String.toList_inj.mp (by rw [String.toList_ofList, hfull]))
      · exact .inr (by rw [String.toList_ofList, hpart])

theorem foreign_signed {token sig : List Char}
    (written : value.toList = "dc2:".toList ++ (token ++ ':' :: sig)) (plain : ':' ∉ token) :
    ForeignCallback value ↔ 1 ≤ token.length ∧ token.length ≤ 38 ∧
      (sig.length = callbackSigLen ∨ sig.length = 64) ∧ Foreign sig := by
  constructor
  · rintro ⟨other, rest, hvalue, hplain, hshape⟩
    rw [hvalue, List.append_cancel_left_eq, Text.cut_unique hplain plain] at written
    obtain ⟨rfl, rfl⟩ := written
    exact hshape
  · exact fun hshape => ⟨token, sig, written, plain, hshape⟩

theorem decodeCallback_signed {token sig : List Char}
    (written : value.toList = "dc2:".toList ++ (token ++ ':' :: sig)) (plain : ':' ∉ token) :
    decodeCallback hmacHex value signingSecret =
      if token = [] ∨ 38 < token.length then .ok none
      else if sig = [] ∨ (sig.length ≠ callbackSigLen ∧ sig.length ≠ 64) then .ok none
      else if signingSecret = "" then .ok none
      else
        (comparePart sig (hmacHex (String.ofList token) signingSecret)).map
          fun same => if same then some (String.ofList token) else none := by
  have hfields : Text.fields ':' 2 value.toList = ["dc2".toList, token, sig] := by
    rw [written, show "dc2:".toList ++ (token ++ ':' :: sig) =
      "dc2".toList ++ ':' :: (token ++ ':' :: sig) from rfl, Text.fields_append (by decide),
      Text.fields_append plain]
    rfl
  unfold decodeCallback decodeV2
  rw [if_pos (by rw [written]; simp), hfields]

/-- A signature of one of the two lengths is as much of a digest as it has letters, exactly when
it is the whole digest or its first part. -/
theorem signature_part_iff {sig : List Char} (digest : HexDigest)
    (hlength : sig.length = callbackSigLen ∨ sig.length = 64) :
    sig = digest.val.toList.take sig.length ↔
      sig = digest.val.toList ∨ sig = digest.val.toList.take callbackSigLen := by
  have hdigest := digest.property.1
  constructor
  · intro h
    rcases hlength with hpart | hfull
    · rw [hpart] at h
      exact .inr h
    · rw [hfull, List.take_of_length_le hdigest.le] at h
      exact .inl h
  · rintro (hfull | hpart)
    · rw [hfull, List.take_length]
    · have hcount : sig.length = callbackSigLen := by
        rw [hpart, List.length_take, hdigest]
        rfl
      rw [hcount]
      exact hpart

/-- A text of the new form is decoded as it should be, unless its signature is foreign. -/
theorem callbackExact_signed {token sig : List Char} (secret : signingSecret ≠ "")
    (written : value.toList = "dc2:".toList ++ (token ++ ':' :: sig)) (plain : ':' ∉ token) :
    CallbackExact hmacHex signingSecret value ↔ ¬ForeignCallback value := by
  have hdigest := (hmacHex (String.ofList token) signingSecret).property.1
  rw [foreign_signed written plain]
  unfold CallbackExact
  rw [decodeCallback_signed written plain]
  simp only [genuine_signed written plain]
  by_cases htoken : token = [] ∨ 38 < token.length
  · have hbad : ¬(1 ≤ token.length ∧ token.length ≤ 38) := by
      rcases htoken with rfl | hlong
      · simp
      · omega
    rw [if_pos htoken]
    exact ⟨fun _ h => hbad ⟨h.1, h.2.1⟩, fun _ => ⟨none, rfl, fun found =>
      ⟨fun h => by contradiction, fun h => absurd ⟨h.2.1, h.2.2.1⟩ hbad⟩⟩⟩
  · have hgood : 1 ≤ token.length ∧ token.length ≤ 38 := by
      rw [not_or] at htoken
      have hpositive := List.length_pos_iff.mpr htoken.1
      omega
    rw [if_neg htoken]
    by_cases hsig : sig = [] ∨ (sig.length ≠ callbackSigLen ∧ sig.length ≠ 64)
    · have hbad : ¬(sig.length = callbackSigLen ∨ sig.length = 64) := by
        rcases hsig with rfl | hlength
        · decide
        · exact not_or.mpr hlength
      rw [if_pos hsig]
      refine ⟨fun _ h => hbad h.2.2.1, fun _ => ⟨none, rfl, fun found =>
        ⟨fun h => by contradiction, fun h => absurd ?_ hbad⟩⟩⟩
      rcases h.2.2.2 with rfl | rfl
      · exact .inr hdigest
      · exact .inl (by rw [List.length_take, hdigest]; rfl)
    · have hlength : sig.length = callbackSigLen ∨ sig.length = 64 := by
        rw [not_or, Classical.not_and_iff_not_or_not, not_not, not_not] at hsig
        exact hsig.2
      rw [if_neg hsig, if_neg secret]
      by_cases hforeign : Foreign sig
      · obtain ⟨failure, hfailure⟩ := comparePart_foreign hforeign
          (hmacHex (String.ofList token) signingSecret)
        rw [hfailure]
        constructor
        · rintro ⟨outcome, houtcome, -⟩
          cases houtcome
        · intro h
          exact absurd ⟨hgood.1, hgood.2, hlength, hforeign⟩ h
      · rw [comparePart_ok hforeign]
        refine ⟨fun _ h => hforeign h.2.2.2, fun _ => ⟨_, rfl, fun found => ?_⟩⟩
        rw [← signature_part_iff _ hlength]
        by_cases hsame : sig = (hmacHex (String.ofList token) signingSecret).val.toList.take
            sig.length
        · rw [decide_eq_true hsame]
          constructor
          · intro h
            exact ⟨(Option.some.inj h).symm, hgood.1, hgood.2, hsame⟩
          · rintro ⟨rfl, -⟩
            rfl
        · rw [decide_eq_false hsame]
          exact ⟨fun h => by contradiction, fun h => absurd h.2.2.2 hsame⟩

theorem callbackExact_unsigned {rest : List Char}
    (written : value.toList = "dc2:".toList ++ rest) (whole : ':' ∉ rest) :
    CallbackExact hmacHex signingSecret value ∧ ¬ForeignCallback value := by
  have hfields : Text.fields ':' 2 value.toList = ["dc2".toList, rest] := by
    rw [written, show "dc2:".toList ++ rest = "dc2".toList ++ ':' :: rest from rfl,
      Text.fields_append (by decide), Text.fields_whole whole]
  constructor
  · refine ⟨none, ?_, fun token => ⟨fun h => by contradiction, ?_⟩⟩
    · unfold decodeCallback decodeV2
      rw [if_pos (by rw [written]; simp), hfields]
    · rintro (⟨hvalue, -⟩ | ⟨-, -, -, signature, hvalue, -⟩)
      · rw [hvalue, String.toList_append] at written
        exact absurd written (legacy_ne_signed _ _)
      · rw [hvalue, signed_toList, List.append_cancel_left_eq] at written
        exact absurd (by rw [← written]; simp) whole
  · rintro ⟨token, sig, hvalue, -⟩
    rw [hvalue, List.append_cancel_left_eq] at written
    exact absurd (by rw [← written]; simp) whole

/-- A text of the old form is decoded as it should be, and any other is refused. -/
theorem callbackExact_legacy (unsigned : ¬"dc2:".toList.isPrefixOf value.toList) :
    CallbackExact hmacHex signingSecret value := by
  have hgenuine : ∀ token, GenuineCallback hmacHex signingSecret value token ↔
      value = "dc1:" ++ token ∧ 1 ≤ token.toList.length ∧ token.toList.length ≤ 48 := by
    intro token
    refine ⟨?_, .inl⟩
    rintro (hlegacy | ⟨-, -, -, signature, hvalue, -⟩)
    · exact hlegacy
    · refine absurd ?_ unsigned
      rw [hvalue, signed_toList]
      simp
  unfold CallbackExact decodeCallback
  rw [if_neg unsigned]
  simp only [hgenuine]
  by_cases hlegacy : "dc1:".toList.isPrefixOf value.toList
  · rw [if_pos hlegacy]
    obtain ⟨rest, hrest⟩ := List.isPrefixOf_iff_prefix.mp hlegacy
    have hvalue : ∀ token, value = "dc1:" ++ token ↔ rest = token.toList := by
      intro token
      rw [← String.toList_inj, ← hrest, String.toList_append, List.append_cancel_left_eq]
    have hdrop : value.toList.drop "dc1:".toList.length = rest := by
      rw [← hrest, List.drop_left]
    refine ⟨_, rfl, fun token => ?_⟩
    unfold decodeLegacy
    rw [hdrop, hvalue]
    by_cases hfits : rest ≠ [] ∧ rest.length ≤ 48
    · have hpositive := List.length_pos_iff.mpr hfits.1
      simp only [if_pos hfits]
      constructor
      · intro h
        rw [← Option.some.inj h, String.toList_ofList]
        exact ⟨rfl, hpositive, hfits.2⟩
      · rintro ⟨rfl, -⟩
        rw [String.ofList_toList]
    · simp only [if_neg hfits]
      refine ⟨fun h => by contradiction, ?_⟩
      rintro ⟨rfl, hpositive, hshort⟩
      exact absurd ⟨List.length_pos_iff.mp hpositive, hshort⟩ hfits
  · rw [if_neg hlegacy]
    refine ⟨none, rfl, fun token => ⟨fun h => by contradiction, ?_⟩⟩
    rintro ⟨rfl, -⟩
    refine absurd ?_ hlegacy
    rw [String.toList_append]
    simp

theorem callbackExact_iff (secret : signingSecret ≠ "") (value : String) :
    CallbackExact hmacHex signingSecret value ↔ ¬ForeignCallback value := by
  by_cases hsigned : "dc2:".toList.isPrefixOf value.toList
  · obtain ⟨rest, hrest⟩ := List.isPrefixOf_iff_prefix.mp hsigned
    by_cases hcolon : ':' ∈ rest
    · obtain ⟨token, sig, rfl, hplain⟩ := List.eq_append_cons_of_mem hcolon
      exact callbackExact_signed secret hrest.symm hplain
    · obtain ⟨hexact, hnone⟩ := callbackExact_unsigned hrest.symm hcolon
      exact iff_of_true hexact hnone
  · refine iff_of_true (callbackExact_legacy hsigned) ?_
    rintro ⟨token, sig, hvalue, -⟩
    refine absurd ?_ hsigned
    rw [hvalue]
    simp

/-- What is encoded is decoded. -/
theorem decode_encodeCallback {token : String}
    (encoded : encodeCallback hmacHex token signingSecret = .ok value) :
    decodeCallback hmacHex value signingSecret = .ok (some token) := by
  unfold encodeCallback at encoded
  split at encoded
  · cases encoded
  rename_i hlength
  split at encoded
  · cases encoded
  rename_i hplain
  split at encoded
  · cases encoded
  rename_i hsecret
  dsimp only at encoded
  split at encoded
  · cases encoded
  have hvalue := Except.ok.inj encoded
  have hgenuine : GenuineCallback hmacHex signingSecret value token := by
    rw [not_or, not_lt] at hlength
    have hpositive : 1 ≤ token.toList.length :=
      List.length_pos_iff.mpr fun hnil => hlength.1 (String.toList_eq_nil_iff.mp hnil)
    exact .inr ⟨hplain, hpositive, hlength.2, _, hvalue.symm, .inr (String.toList_ofList ..)⟩
  have hnative : ¬ForeignCallback value := by
    rw [foreign_signed (by rw [← hvalue]; exact signed_toList _ _) hplain]
    rw [String.toList_ofList]
    exact fun h => not_foreign_take _ _ h.2.2.2
  obtain ⟨outcome, houtcome, hexact⟩ := (callbackExact_iff hsecret value).mpr hnative
  rw [houtcome, (hexact token).mpr hgenuine]

/-! ### The decoder of executor tokens -/

theorem token_toList (organizationId actorId signature : String) (expiresAt : Int) :
    s!"dt1:{tokenPayload organizationId actorId expiresAt}:{signature}".toList =
      "dt1:".toList ++ (organizationId.toList ++ ':' :: (actorId.toList ++
        ':' :: ((toString expiresAt).toList ++ ':' :: signature.toList))) := by
  simp [tokenPayload, toString]

/-- The letters of a token of four parts. -/
def tokenLetters (organizationId actorId expires sig : List Char) : List Char :=
  "dt1:".toList ++ (organizationId ++ ':' :: (actorId ++ ':' :: (expires ++ ':' :: sig)))

/-- A genuine token, spelled out. -/
theorem genuineExecutor_iff {actor : Key} :
    GenuineExecutor hmacHex now signingSecret value actor ↔
      (actor.1 ≠ "" ∧ actor.2 ≠ "") ∧ (':' ∉ actor.1.toList ∧ ':' ∉ actor.2.toList) ∧
        ∃ expiresAt, ¬expired now expiresAt ∧
          value.toList = tokenLetters actor.1.toList actor.2.toList (toString expiresAt).toList
            (hmacHex (tokenPayload actor.1 actor.2 expiresAt) signingSecret).val.toList := by
  constructor
  · rintro ⟨made, ttlSeconds, token, hencoded, rfl, hlive⟩
    unfold encodeExecutorToken at hencoded
    by_cases hpresent : actor.1 = "" ∨ actor.2 = ""
    · rw [if_pos hpresent] at hencoded
      cases hencoded
    · by_cases hcolon : ':' ∈ actor.1.toList ∨ ':' ∈ actor.2.toList
      · rw [if_neg hpresent, if_pos hcolon] at hencoded
        cases hencoded
      · rw [if_neg hpresent, if_neg hcolon] at hencoded
        cases hencoded
        exact ⟨not_or.mp hpresent, not_or.mp hcolon, _, hlive, token_toList _ _ _ _⟩
  · rintro ⟨hpresent, hplain, expiresAt, hlive, hvalue⟩
    refine ⟨⟨0⟩, expiresAt, ⟨value, expiresAt⟩, ?_, rfl, hlive⟩
    unfold encodeExecutorToken
    rw [if_neg (not_or.mpr hpresent), if_neg (not_or.mpr hplain)]
    have htext := String.toList_inj.mp (hvalue.trans
      (token_toList actor.1 actor.2
        (hmacHex (tokenPayload actor.1 actor.2 expiresAt) signingSecret).val expiresAt).symm)
    rw [htext]
    simp

section shaped

variable {organizationId actorId expires sig : List Char}

theorem tokenLetters_inj {otherOrganization otherActor otherExpires otherSig : List Char}
    (plain : ':' ∉ organizationId ∧ ':' ∉ actorId ∧ ':' ∉ expires)
    (other : ':' ∉ otherOrganization ∧ ':' ∉ otherActor ∧ ':' ∉ otherExpires) :
    tokenLetters organizationId actorId expires sig =
        tokenLetters otherOrganization otherActor otherExpires otherSig ↔
      organizationId = otherOrganization ∧ actorId = otherActor ∧ expires = otherExpires ∧
        sig = otherSig := by
  unfold tokenLetters
  rw [List.append_cancel_left_eq, Text.cut_unique plain.1 other.1,
    Text.cut_unique plain.2.1 other.2.1, Text.cut_unique plain.2.2 other.2.2]

variable (written : value.toList = tokenLetters organizationId actorId expires sig)
  (plain : ':' ∉ organizationId ∧ ':' ∉ actorId ∧ ':' ∉ expires)
include written plain

theorem genuine_shaped {expiresAt : Int}
    (read : Text.int? (String.ofList expires) = some expiresAt) {actor : Key} :
    GenuineExecutor hmacHex now signingSecret value actor ↔
      actor = (String.ofList organizationId, String.ofList actorId) ∧
        (organizationId ≠ [] ∧ actorId ≠ []) ∧ ¬expired now expiresAt ∧
        expires = (toString expiresAt).toList ∧
        sig = (hmacHex (tokenPayload (String.ofList organizationId) (String.ofList actorId)
          expiresAt) signingSecret).val.toList := by
  rw [genuineExecutor_iff]
  constructor
  · rintro ⟨hpresent, hplain, other, hlive, hvalue⟩
    rw [written, tokenLetters_inj plain ⟨hplain.1, hplain.2, Text.colon_notMem_int other⟩] at hvalue
    obtain ⟨rfl, rfl, rfl, rfl⟩ := hvalue
    rw [String.ofList_toList, Text.int?_toString] at read
    cases read
    simp only [String.ofList_toList]
    exact ⟨trivial, ⟨fun h => hpresent.1 (String.toList_eq_nil_iff.mp h),
      fun h => hpresent.2 (String.toList_eq_nil_iff.mp h)⟩, hlive, trivial, trivial⟩
  · rintro ⟨rfl, hpresent, hlive, hexpires, hsig⟩
    refine ⟨?_, ?_, expiresAt, hlive, ?_⟩
    · simpa using hpresent
    · simpa using ⟨plain.1, plain.2.1⟩
    · rw [written, hexpires, hsig]
      simp

theorem misread_shaped :
    MisreadExecutor hmacHex now signingSecret value ↔
      (organizationId ≠ [] ∧ actorId ≠ []) ∧ sig.length = 64 ∧
        ∃ expiresAt, Text.int? (String.ofList expires) = some expiresAt ∧ ¬expired now expiresAt ∧
          (Foreign sig ∨
            (sig = (hmacHex (tokenPayload (String.ofList organizationId) (String.ofList actorId)
              expiresAt) signingSecret).val.toList ∧ expires ≠ (toString expiresAt).toList)) := by
  constructor
  · rintro ⟨otherOrganization, otherActor, otherExpires, otherSig, expiresAt, hvalue, hplain,
      hpresent, hlength, hread, hlive, hwrong⟩
    have hsame := (tokenLetters_inj plain hplain).mp (written.symm.trans hvalue)
    obtain ⟨rfl, rfl, rfl, rfl⟩ := hsame
    exact ⟨hpresent, hlength, expiresAt, hread, hlive, hwrong⟩
  · rintro ⟨hpresent, hlength, expiresAt, hread, hlive, hwrong⟩
    exact ⟨organizationId, actorId, expires, sig, expiresAt, written, plain, hpresent, hlength,
      hread, hlive, hwrong⟩

theorem decodeExecutorToken_shaped :
    decodeExecutorToken hmacHex now value signingSecret =
      if organizationId = [] ∨ actorId = [] then .ok none
      else if sig.length ≠ 64 then .ok none
      else
        match Text.int? (String.ofList expires) with
        | none => .ok none
        | some expiresAt =>
            if expired now expiresAt then .ok none
            else if signingSecret = "" then .ok none
            else
              (compareDigest (String.ofList sig) (hmacHex (tokenPayload
                (String.ofList organizationId) (String.ofList actorId) expiresAt)
                  signingSecret)).map fun same =>
                if same then some (String.ofList organizationId, String.ofList actorId)
                else none := by
  have hfields : Text.fields ':' 4 value.toList =
      ["dt1".toList, organizationId, actorId, expires, sig] := by
    rw [written, show tokenLetters organizationId actorId expires sig =
      "dt1".toList ++ ':' :: (organizationId ++ ':' :: (actorId ++ ':' :: (expires ++
        ':' :: sig))) from rfl, Text.fields_append (by decide), Text.fields_append plain.1,
      Text.fields_append plain.2.1, Text.fields_append plain.2.2]
    rfl
  unfold decodeExecutorToken
  rewrite [if_neg (by rw [written]; simp [tokenLetters]), hfields]
  rfl

/-- A token of the right shape is decoded as it should be, unless it is misread. -/
theorem executorExact_shaped (secret : signingSecret ≠ "") :
    ExecutorExact hmacHex now signingSecret value ↔
      ¬MisreadExecutor hmacHex now signingSecret value := by
  rw [misread_shaped written plain]
  unfold ExecutorExact
  rw [decodeExecutorToken_shaped written plain]
  -- where the decoder answers nothing before it compares, nothing is genuine
  have hrefused : (∀ actor, ¬GenuineExecutor hmacHex now signingSecret value actor) →
      ∃ outcome : Option Key, (.ok none : Except Failure (Option Key)) = .ok outcome ∧
        ∀ actor, outcome = some actor ↔ GenuineExecutor hmacHex now signingSecret value actor :=
    fun hnone => ⟨none, rfl, fun actor => ⟨fun h => by contradiction, fun h => absurd h (hnone actor)⟩⟩
  have hread : ∀ actor, GenuineExecutor hmacHex now signingSecret value actor →
      ∃ expiresAt, Text.int? (String.ofList expires) = some expiresAt := by
    intro actor hgenuine
    obtain ⟨-, hplain, expiresAt, -, hvalue⟩ := genuineExecutor_iff.mp hgenuine
    rw [written, tokenLetters_inj plain ⟨hplain.1, hplain.2, Text.colon_notMem_int expiresAt⟩]
      at hvalue
    rw [hvalue.2.2.1, String.ofList_toList]
    exact ⟨expiresAt, Text.int?_toString expiresAt⟩
  cases hint : Text.int? (String.ofList expires) with
  | none =>
      have hnone : ∀ actor, ¬GenuineExecutor hmacHex now signingSecret value actor := by
        intro actor hgenuine
        obtain ⟨expiresAt, hexpires⟩ := hread actor hgenuine
        rw [hint] at hexpires
        contradiction
      have houtcome := hrefused hnone
      constructor
      · rintro - ⟨-, -, expiresAt, hexpires, -⟩
        contradiction
      · intro _
        simpa using houtcome
  | some expiresAt =>
      have hgenuine := fun actor =>
        @genuine_shaped hmacHex signingSecret value now _ _ _ _ written plain expiresAt hint actor
      have hdigest := (hmacHex (tokenPayload (String.ofList organizationId)
        (String.ofList actorId) expiresAt) signingSecret).property.1
      by_cases hpresent : organizationId = [] ∨ actorId = []
      · rw [if_pos hpresent]
        refine iff_of_true (hrefused fun actor h => ?_) fun h => ?_
        · exact (not_or.mpr ((hgenuine actor).mp h).2.1) hpresent
        · exact (not_or.mpr h.1) hpresent
      · rw [if_neg hpresent]
        by_cases hlength : sig.length ≠ 64
        · rw [if_pos hlength]
          refine iff_of_true (hrefused fun actor h => ?_) fun h => hlength h.2.1
          exact hlength (by rw [((hgenuine actor).mp h).2.2.2.2]; exact hdigest)
        · rw [if_neg hlength]
          rw [not_not] at hlength
          dsimp only
          by_cases hlive : expired now expiresAt
          · rw [if_pos hlive]
            refine iff_of_true (hrefused fun actor h => ?_) ?_
            · exact ((hgenuine actor).mp h).2.2.1 hlive
            · rintro ⟨-, -, other, hother, hotherLive, -⟩
              cases hother
              exact hotherLive hlive
          · rw [if_neg hlive, if_neg secret]
            by_cases hforeign : Foreign sig
            · obtain ⟨failure, hfailure⟩ := compareDigest_foreign hforeign
                (hmacHex (tokenPayload (String.ofList organizationId) (String.ofList actorId)
                  expiresAt) signingSecret)
              rw [hfailure]
              refine iff_of_false ?_ fun h => ?_
              · rintro ⟨outcome, houtcome, -⟩
                cases houtcome
              · exact h ⟨not_or.mp hpresent, hlength, expiresAt, rfl, hlive, .inl hforeign⟩
            · rw [compareDigest_native hforeign]
              by_cases hsig : sig = (hmacHex (tokenPayload (String.ofList organizationId)
                  (String.ofList actorId) expiresAt) signingSecret).val.toList
              · rw [decide_eq_true hsig]
                by_cases hexpires : expires = (toString expiresAt).toList
                · refine iff_of_true ⟨_, rfl, fun actor => ?_⟩ ?_
                  · rw [hgenuine]
                    constructor
                    · intro h
                      exact ⟨(Option.some.inj h).symm, not_or.mp hpresent, hlive, hexpires, hsig⟩
                    · rintro ⟨rfl, -⟩
                      rfl
                  · rintro ⟨-, -, other, hother, -, hwrong⟩
                    cases hother
                    exact hwrong.elim hforeign fun h => h.2 hexpires
                · refine iff_of_false ?_ fun h => ?_
                  · rintro ⟨outcome, houtcome, hexact⟩
                    cases houtcome
                    exact hexpires ((hgenuine _).mp ((hexact _).mp rfl)).2.2.2.1
                  · exact h ⟨not_or.mp hpresent, hlength, expiresAt, rfl, hlive,
                      .inr ⟨hsig, hexpires⟩⟩
              · rw [decide_eq_false hsig]
                refine iff_of_true (hrefused fun actor h => ?_) ?_
                · exact hsig ((hgenuine actor).mp h).2.2.2.2
                · rintro ⟨-, -, other, hother, -, hwrong⟩
                  cases hother
                  exact hwrong.elim hforeign fun h => hsig h.1

end shaped

theorem executorExact_iff (secret : signingSecret ≠ "") (now : Instant) (value : String) :
    ExecutorExact hmacHex now signingSecret value ↔
      ¬MisreadExecutor hmacHex now signingSecret value := by
  by_cases hshaped : ∃ organizationId actorId expires sig : List Char,
      value.toList = tokenLetters organizationId actorId expires sig ∧
        ':' ∉ organizationId ∧ ':' ∉ actorId ∧ ':' ∉ expires
  · obtain ⟨organizationId, actorId, expires, sig, hwritten, hplain⟩ := hshaped
    exact executorExact_shaped hwritten hplain secret
  · refine iff_of_true ⟨none, ?_, fun actor => ⟨fun h => by contradiction, fun hgenuine => ?_⟩⟩ ?_
    · unfold decodeExecutorToken
      split
      · rfl
      · rename_i hversion
        split
        · rename_i version organizationId actorId expires sig hfields
          refine absurd ?_ hshaped
          rw [not_not] at hversion
          obtain ⟨rest, hrest⟩ := List.isPrefixOf_iff_prefix.mp hversion
          rw [← hrest, show "dt1:".toList ++ rest = "dt1".toList ++ ':' :: rest from rfl,
            Text.fields_append (by decide), List.cons.injEq,
            Text.fields_succ_iff (List.cons_ne_nil _ _)] at hfields
          obtain ⟨-, horganization, first, rfl, hfields⟩ := hfields
          rw [Text.fields_succ_iff (List.cons_ne_nil _ _)] at hfields
          obtain ⟨hactor, second, rfl, hfields⟩ := hfields
          rw [Text.fields_succ_iff (List.cons_ne_nil _ _)] at hfields
          obtain ⟨hexpires, third, rfl, hfields⟩ := hfields
          rw [Text.fields_zero_iff] at hfields
          subst hfields
          exact ⟨organizationId, actorId, expires, third, hrest.symm, horganization, hactor,
            hexpires⟩
        · rfl
    · obtain ⟨-, hplain, expiresAt, -, hvalue⟩ := genuineExecutor_iff.mp hgenuine
      exact absurd ⟨_, _, _, _, hvalue, hplain.1, hplain.2, Text.colon_notMem_int expiresAt⟩
        hshaped
    · rintro ⟨organizationId, actorId, expires, sig, expiresAt, hvalue, hplain, -⟩
      exact hshaped ⟨organizationId, actorId, expires, sig, hvalue, hplain⟩

end tokens

/-- A signature that is the same for everything. -/
def plainDigest : HexDigest :=
  ⟨String.ofList (List.replicate 64 'a'), by
    rw [String.toList_ofList]
    refine ⟨List.length_replicate, fun letter hmem => ?_⟩
    rw [List.eq_of_mem_replicate hmem]
    decide⟩

end DispatchCore.Transports
