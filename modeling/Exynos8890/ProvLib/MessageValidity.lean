import Exynos8890.ProvLib.DeviceBinding

/-!
# What the library makes of its own messages

Each message that the library composes can be given to its validation.  Responses and results are
validated.  An error message announces a body that ends with its text, and the length of the text
rounded up to four bytes, and the validation compares the two.

Main results:

- Definition `errorText`: the text of the error that a step reports.
- Theorem `accepted_iff`: a composed message is validated exactly when the text in it, with its
  terminator, fills whole words.
- Theorem `not_accepted`: the report of a message that was not validated is not validated.
-/

namespace Exynos8890.ProvLib

open CString CStruct

/-! ## Messages and tokens -/

/-- A message is validated for its length, and it announces the size of its body, which stands
in it rounded up to four bytes. -/
structure Accepted (out : Buffer) : Prop where
  validated : gdmcValidateProvMessage out.bytes (UInt32.ofNat out.size) = .ok
  bodySize : bodyOff + alignUp (u32At out.bytes 4).toNat 4 + CStruct.sizeOf gdmcMsgtrailer =
    out.size

/-- A member of a token. -/
def authtokField (authtok : Bytes authtokSize) (i : Nat) : UInt32 :=
  let r := member gdmcSoAuthtok i
  UInt32.ofNat (ofLittleEndian ((authtok.1.drop r.off).take r.size))

/-- A token with the header that the validation asks for. -/
structure GoodToken (authtok : Bytes authtokSize) : Prop where
  type : authtokField authtok 0 = 1
  context : authtokField authtok 2 = 1
  plainLength : authtokField authtok 6 = 28
  encryptedLength : authtokField authtok 7 = 32
  contType : authtokField authtok 8 = 0
  contState : authtokField authtok 10 = 2

/-- The secure world returns tokens with this header. -/
def GoodAnswer (st : ProvisioningStep) : Prop :=
  st.genAuthToken.Succeeds mcCmpCmdGenerateAuthToken → GoodToken st.genAuthToken.data

namespace Provisioning

/-- The token that an instance holds has the header. -/
def GoodHeld (p : Provisioning) : Prop :=
  p.inst.state = .haveAuthtok → GoodToken p.inst.authTok

/-- The text of the error that a step reports. -/
def errorText (p : Provisioning) (st : ProvisioningStep) : Option (List UInt8) :=
  if gdmcValidateProvMessage st.msgin st.msginSize ≠ .ok then some errmsg0006
  else if u32At st.msgin 0 = mcGetSuidReq then
    if st.msgoutSize.toNat < messageSize suidLength then
      some (errmsg0005 st.msgoutSize.toNat (messageSize suidLength))
    else if p.inst.state = .initial ∧ ¬ st.getSuid.Succeeds mcCmpCmdGetSuid then some errmsg000D
    else none
  else if u32At st.msgin 0 = mcGenAuthTokenReq then
    if st.msgoutSize.toNat < messageSize (CStruct.sizeOf gdmcActmsgResp) then
      some (errmsg0005 st.msgoutSize.toNat (messageSize (CStruct.sizeOf gdmcActmsgResp)))
    else if p.inst.state = .haveAuthtok ∧ p.inst.kSoCAuth = st.kSoCAuth then none
    else if ¬ st.genAuthToken.Succeeds mcCmpCmdGenerateAuthToken then some errmsg000E
    else if ¬ WriteAccepts st.writecb then some errmsg000C
    else none
  else if u32At st.msgin 0 = mcValidateAuthTokenReq then
    if st.msgoutSize.toNat < messageSize (CStruct.sizeOf gdmcErrorMsg) then
      some (errmsg0005 st.msgoutSize.toNat (messageSize (CStruct.sizeOf gdmcErrorMsg)))
    else if p.inst.state ≠ .haveAuthtok then some errmsg000F
    else none
  else some errmsg0007

end Provisioning

/-- The text of an error, if there is one, fills whole words with its terminator. -/
def FillsWords (text : Option (List UInt8)) : Prop :=
  ∀ t, text = some t → errmsgsize t % 4 = 0

/-! ## Error messages -/

section Messages

variable {error : GdError} {text : List UInt8} {m : Memory}

/-- The body of an error message is rounded up like its text. -/
theorem bodySize_errorMessage :
    bodyOff + alignUp (u32At (errorMessage error text m) 4).toNat 4 +
      CStruct.sizeOf gdmcMsgtrailer = errorMsgsize text := by
  have hle : errmsgsize text ≤ 4096 := errmsgsize_le text
  have hword : UInt32.size = 4294967296 := rfl
  have hsize : (UInt32.ofNat (8 + errmsgsize text)).toNat = 8 + errmsgsize text :=
    UInt32.toNat_ofNat_of_lt' (by omega)
  rw [(errorMessage_framed error text m).bodySize]
  show 8 + ((UInt32.ofNat (8 + errmsgsize text)).toNat + 4 - 1) / 4 * 4 + 8 =
    8 + 8 + (errmsgsize text + 4 - 1) / 4 * 4 + 8
  omega

theorem accepted_errorMessage_iff :
    Accepted ⟨errorMessage error text m, errorMsgsize text⟩ ↔ errmsgsize text % 4 = 0 := by
  rw [← validate_errorMessage_iff error text m]
  exact ⟨fun h => h.validated, fun h => ⟨h, bodySize_errorMessage⟩⟩

/-! ## Other messages -/

/-- A framed message whose body has whole words is accepted when its body is. -/
theorem accepted_of_framed {msgType : UInt32} {bodySize : Nat}
    (hframed : Framed msgType (UInt32.ofNat bodySize) bodySize m)
    (hwords : bodySize % 4 = 0) (hsize : bodySize < 65536)
    (hbody : validateBody m (UInt32.ofNat bodySize) msgType = .ok) :
    Accepted ⟨m, bodyOff + bodySize + CStruct.sizeOf gdmcMsgtrailer⟩ := by
  have hword : UInt32.size = 4294967296 := rfl
  have hnat : (UInt32.ofNat bodySize).toNat = bodySize :=
    UInt32.toNat_ofNat_of_lt' (by omega)
  have halign : alignUp bodySize 4 = bodySize := by
    simp only [alignUp]
    omega
  have hlength : bodyOff + bodySize + CStruct.sizeOf gdmcMsgtrailer = bodySize + 16 := by
    show 8 + bodySize + 8 = _
    omega
  constructor
  · show gdmcValidateProvMessage m (UInt32.ofNat (bodyOff + bodySize + _)) = .ok
    rw [hlength, validate_framed hframed halign (by omega)]
    exact hbody
  · show bodyOff + alignUp (u32At m 4).toNat 4 + _ = _
    rw [hframed.bodySize, hnat, halign]

end Messages

namespace Provisioning

section Steps

variable {p : Provisioning} {st : ProvisioningStep}

theorem accepted_suidResponse : Accepted p.suidResponse.out :=
  accepted_of_framed (message_framed (suidBody_fits p.inst.suid)) (by decide) (by decide) rfl

theorem u32At_authtokResponse {i : Nat} (hi : (member gdmcSoAuthtok i).size = 4)
    (hend : (member gdmcSoAuthtok i).off + 4 ≤ authtokSize) :
    u32At p.authtokResponse.out.bytes (authtokMember i).off = authtokField p.inst.authTok i := by
  have htoken : load ⟨(bodyMember gdmcActmsgResp 2).off, authtokSize⟩
      p.authtokResponse.out.bytes = p.inst.authTok.1 :=
    load_message_body (authtokBody_fits p.inst.authTok)
      (List.mem_cons_of_mem _ (List.mem_singleton_self _))
  have hfield := @take_drop_load (bodyMember gdmcActmsgResp 2).off _ _ _ hend
    p.authtokResponse.out.bytes
  rw [htoken] at hfield
  simp only [authtokField, hi, hfield]
  rfl

theorem msgType_authtokResponse :
    u32At p.authtokResponse.out.bytes (bodyMember gdmcActmsgResp 0).off =
      mcCmpCmdGenerateAuthToken ||| rspIdMask := by
  have hsize : (bodyMember gdmcActmsgResp 0).size = 4 := by decide
  exact u32At_of_load hsize
    (load_message_body (authtokBody_fits p.inst.authTok) List.mem_cons_self)

/-- A response with a token of the secure world is accepted. -/
theorem accepted_authtokResponse (htoken : GoodToken p.inst.authTok) :
    Accepted p.authtokResponse.out := by
  refine accepted_of_framed (message_framed (authtokBody_fits p.inst.authTok)) (by decide)
    (by decide) ?_
  have hfield : ∀ i ∈ [0, 2, 6, 7, 8, 10], u32At p.authtokResponse.out.bytes
      (authtokMember i).off = authtokField p.inst.authTok i := by
    intro i hi
    have hplace : ∀ i ∈ [0, 2, 6, 7, 8, 10], (member gdmcSoAuthtok i).size = 4 ∧
        (member gdmcSoAuthtok i).off + 4 ≤ authtokSize := by
      decide
    exact u32At_authtokResponse (hplace i hi).1 (hplace i hi).2
  show validateBody p.authtokResponse.out.bytes
    (UInt32.ofNat (CStruct.sizeOf gdmcActmsgResp)) mcGenAuthTokenResp = .ok
  unfold validateBody
  rw [if_neg (by decide), if_neg (by decide), if_neg (by decide), if_pos rfl, if_neg (by decide),
    if_neg (not_not_intro msgType_authtokResponse), hfield 6 (by decide), hfield 7 (by decide),
    hfield 0 (by decide), hfield 2 (by decide), hfield 8 (by decide), hfield 10 (by decide),
    if_neg (not_not_intro htoken.plainLength), if_neg (not_not_intro htoken.encryptedLength),
    if_neg (not_not_intro htoken.type), if_neg (not_not_intro htoken.context),
    if_neg (not_not_intro htoken.contType), if_neg (not_not_intro htoken.contState)]

theorem load_clear {msgout : Memory} {size : UInt32} {r : Region}
    (hr : r.off + r.size ≤ size.toNat) :
    load r (clear msgout size).bytes = List.replicate r.size 0 := by
  have hall : load ⟨0, size.toNat⟩ (clear msgout size).bytes = List.replicate size.toNat 0 :=
    load_store_self (r := ⟨0, size.toNat⟩) List.length_replicate msgout
  have hpart := @take_drop_load 0 _ _ _ hr (clear msgout size).bytes
  rw [hall, List.drop_replicate, List.take_replicate, Nat.zero_add,
    Nat.min_eq_left (by omega)] at hpart
  exact hpart.symm

theorem accepted_validationResult {error : GdError}
    (hzero : load (bodyMember gdmcErrorMsg 1) p.out.bytes = List.replicate 4 0) :
    Accepted (p.respond mcError (CStruct.sizeOf gdmcErrorMsg)
      [(bodyMember gdmcErrorMsg 0).set error.toNat]).out := by
  set m := message mcError (CStruct.sizeOf gdmcErrorMsg) (CStruct.sizeOf gdmcErrorMsg)
    [(bodyMember gdmcErrorMsg 0).set error.toNat] p.out.bytes with hm
  refine accepted_of_framed (m := m) (message_framed (errorcodeBody_fits error)) (by decide)
    (by decide) ?_
  have hlength : u32At m (bodyMember gdmcErrorMsg 1).off = 0 := by
    apply u32At_of_zeros
    refine (load_message_rest (by decide) (by decide) ?_).trans hzero
    intro a ha
    rw [List.mem_singleton.mp ha, region_set]
    decide
  unfold validateBody
  rw [if_neg (by decide), if_neg (by decide), if_neg (by decide), if_neg (by decide),
    if_neg (by decide), if_pos rfl, if_neg (by decide), hlength, if_neg (by decide)]

/-! ### Composed messages -/

theorem accepted_compose_iff {error : GdError} {text : List UInt8} (hout : p.out.size = 0)
    (hsize : (p.compose error text st).2.out.size ≠ 0) :
    Accepted (p.compose error text st).2.out ↔ errmsgsize text % 4 = 0 := by
  simp only [compose, gdmcComposeErrorMessage] at hsize ⊢
  by_cases hlt : st.msgoutSize.toNat < errorMsgsize text
  · rw [if_pos hlt] at hsize
    exact absurd hout hsize
  · rw [if_neg hlt]
    exact accepted_errorMessage_iff

/-- What a step composes, when it reports no error or an error with a text. -/
inductive Composes (p' : Provisioning) : Option (List UInt8) → Prop where
  | message (h : Accepted p'.out) : Composes p' none
  | error {text : List UInt8} (h : p'.out.size ≠ 0 →
      (Accepted p'.out ↔ errmsgsize text % 4 = 0)) : Composes p' (some text)

/-- What a step composes is accepted when its text fills whole words. -/
theorem Composes.fills_iff {p' : Provisioning} {text : Option (List UInt8)}
    (h : Composes p' text) (hsize : p'.out.size ≠ 0) : Accepted p'.out ↔ FillsWords text := by
  cases h with
  | message h => exact iff_of_true h fun t ht => absurd ht.symm (Option.some_ne_none t)
  | error h =>
      rw [h hsize]
      exact ⟨fun hmod t ht => Option.some.inj ht ▸ hmod, fun hfills => hfills _ rfl⟩

theorem composes_error {error : GdError} {text : List UInt8} (hout : p.out.size = 0) :
    Composes (p.compose error text st).2 (some text) :=
  .error (accepted_compose_iff hout)

theorem composes_getSUID (hout : p.out.size = 0) (hrequest : IsRequest st mcGetSuidReq) :
    Composes (p.gdmcHandleGetSUID st).2 (p.errorText st) := by
  unfold errorText gdmcHandleGetSUID mcGetSUID
  rw [if_neg (not_not_intro hrequest.1), if_pos hrequest.2]
  by_cases hsize : st.msgoutSize.toNat < messageSize suidLength
  · rw [if_pos hsize, if_pos hsize]
    exact composes_error hout
  · rw [if_neg hsize, if_neg hsize]
    by_cases hstate : p.inst.state = .initial
    · rw [if_pos hstate]
      by_cases hsuid : st.getSuid.Succeeds mcCmpCmdGetSuid
      · rw [if_pos hsuid, if_neg fun h => h.2 hsuid]
        exact .message accepted_suidResponse
      · rw [if_neg hsuid, if_pos ⟨hstate, hsuid⟩]
        exact composes_error hout
    · rw [if_neg hstate, if_neg fun h => hstate h.1]
      exact .message accepted_suidResponse

/-- A request for a token that was validated has the command for it. -/
theorem genAuthTokenReq_msgType (hrequest : IsRequest st mcGenAuthTokenReq) :
    u32At st.msgin (bodyMember gdmcActmsgReq 0).off = mcCmpCmdGenerateAuthToken := by
  have hbody := validateBody_of_validated hrequest.1
  rw [hrequest.2] at hbody
  unfold validateBody at hbody
  rw [if_neg (by decide), if_neg (by decide), if_pos rfl] at hbody
  by_contra hne
  rw [if_pos hne] at hbody
  split at hbody
  · exact absurd hbody (by decide)
  · exact absurd hbody (by decide)

/-- What becomes of a request for a token, with the text of the error. -/
theorem composes_generate (hout : p.out.size = 0) (hgood : GoodAnswer st)
    (htype : u32At st.msgin (bodyMember gdmcActmsgReq 0).off = mcCmpCmdGenerateAuthToken) :
    Composes (p.generateAuthToken st).2
      (if ¬ st.genAuthToken.Succeeds mcCmpCmdGenerateAuthToken then some errmsg000E
        else if ¬ WriteAccepts st.writecb then some errmsg000C else none) := by
  by_cases hgen : st.genAuthToken.Succeeds mcCmpCmdGenerateAuthToken
  · rw [if_neg (not_not_intro hgen)]
    by_cases haccepts : WriteAccepts st.writecb
    · rw [if_neg (not_not_intro haccepts), generateAuthToken_held htype hgen haccepts]
      exact .message (accepted_authtokResponse (hgood hgen))
    · rw [if_pos haccepts]
      rcases generateAuthToken_cases p st with ⟨h, -⟩ | ⟨-, error, -, -, heq⟩ | ⟨-, h, -⟩
      · exact absurd ⟨htype, hgen⟩ h
      · rw [heq]
        exact composes_error hout
      · exact absurd h haccepts
  · rw [if_pos hgen]
    rcases generateAuthToken_cases p st with ⟨-, error, -, heq⟩ | ⟨h, -⟩ | ⟨h, -⟩
    · rw [heq]
      exact composes_error hout
    · exact absurd h hgen
    · exact absurd h hgen

theorem composes_genAuthToken (hout : p.out.size = 0) (hgood : GoodAnswer st)
    (hheld : p.GoodHeld) (hrequest : IsRequest st mcGenAuthTokenReq) :
    Composes (p.gdmcHandleGenAuthToken st).2 (p.errorText st) := by
  unfold errorText
  rw [if_neg (not_not_intro hrequest.1), hrequest.2, if_neg (by decide), if_pos rfl]
  by_cases hsize : st.msgoutSize.toNat < messageSize (CStruct.sizeOf gdmcActmsgResp)
  · rw [if_pos hsize]
    unfold gdmcHandleGenAuthToken
    rw [if_pos hsize]
    exact composes_error hout
  · rw [if_neg hsize, gdmcHandleGenAuthToken_eq (Nat.not_lt.mp hsize)]
    by_cases hkey : p.inst.state = .haveAuthtok ∧ p.inst.kSoCAuth = st.kSoCAuth
    · rw [if_pos hkey, if_pos hkey]
      exact .message (accepted_authtokResponse (hheld hkey.1))
    · rw [if_neg hkey, if_neg hkey]
      exact composes_generate (atGenerate_out hout) hgood (genAuthTokenReq_msgType hrequest)

theorem composes_validateAuthToken (hrequest : IsRequest st mcValidateAuthTokenReq) :
    Composes ({ p with out := clear st.msgout st.msgoutSize }.gdmcHandleValidateAuthToken st).2
      (p.errorText st) := by
  have htext : p.errorText st =
      if st.msgoutSize.toNat < messageSize (CStruct.sizeOf gdmcErrorMsg) then
        some (errmsg0005 st.msgoutSize.toNat (messageSize (CStruct.sizeOf gdmcErrorMsg)))
      else if p.inst.state ≠ .haveAuthtok then some errmsg000F
      else none := by
    unfold errorText
    rw [if_neg (not_not_intro hrequest.1), hrequest.2, if_neg (by decide), if_neg (by decide),
      if_pos rfl]
  rw [htext]
  unfold gdmcHandleValidateAuthToken
  by_cases hsize : st.msgoutSize.toNat < messageSize (CStruct.sizeOf gdmcErrorMsg)
  · rw [if_pos hsize, if_pos hsize]
    exact composes_error rfl
  · rw [if_neg hsize, if_neg hsize]
    by_cases hstate : p.inst.state ≠ .haveAuthtok
    · rw [if_pos hstate, if_pos hstate]
      exact composes_error rfl
    · rw [if_neg hstate, if_neg hstate]
      apply Composes.message
      apply accepted_validationResult
      apply load_clear
      exact le_trans (by decide) (Nat.not_lt.mp hsize)

theorem composes_step (hgood : GoodAnswer st) (hheld : p.GoodHeld) :
    Composes (p.gdmcProvExecuteProvisioningStep st).2 (p.errorText st) := by
  have hout : (clear st.msgout st.msgoutSize).size = 0 := rfl
  have hsame : Provisioning.errorText { p with out := clear st.msgout st.msgoutSize } st =
    p.errorText st := rfl
  by_cases hvalid : gdmcValidateProvMessage st.msgin st.msginSize = .ok
  · unfold gdmcProvExecuteProvisioningStep
    rw [if_neg (not_not_intro hvalid)]
    by_cases hgetSuid : u32At st.msgin 0 = mcGetSuidReq
    · rw [if_pos hgetSuid, ← hsame]
      exact composes_getSUID hout ⟨hvalid, hgetSuid⟩
    · rw [if_neg hgetSuid]
      by_cases hgen : u32At st.msgin 0 = mcGenAuthTokenReq
      · rw [if_pos hgen, ← hsame]
        exact composes_genAuthToken hout hgood hheld ⟨hvalid, hgen⟩
      · rw [if_neg hgen]
        by_cases hvalidate : u32At st.msgin 0 = mcValidateAuthTokenReq
        · rw [if_pos hvalidate]
          exact composes_validateAuthToken ⟨hvalid, hvalidate⟩
        · unfold errorText
          rw [if_neg hvalidate, if_neg (not_not_intro hvalid), if_neg hgetSuid, if_neg hgen,
            if_neg hvalidate]
          exact composes_error hout
  · unfold gdmcProvExecuteProvisioningStep errorText
    rw [if_pos hvalid, if_pos hvalid]
    exact composes_error hout

/-! ### Tokens that are held -/

theorem gdmcHandleGetSUID_goodHeld (hheld : p.GoodHeld) :
    (p.gdmcHandleGetSUID st).2.GoodHeld := by
  unfold gdmcHandleGetSUID mcGetSUID
  by_cases hsize : st.msgoutSize.toNat < messageSize suidLength
  · rw [if_pos hsize]
    exact hheld
  · rw [if_neg hsize]
    by_cases hstate : p.inst.state = .initial
    · rw [if_pos hstate]
      by_cases hsuid : st.getSuid.Succeeds mcCmpCmdGetSuid
      · rw [if_pos hsuid]
        exact GdmcState.noConfusion
      · rw [if_neg hsuid]
        exact hheld
    · rw [if_neg hstate]
      exact hheld

/-- A token that was generated is the one of the secure world. -/
theorem generateAuthToken_goodHeld (hstate : p.inst.state ≠ .haveAuthtok)
    (hgood : GoodAnswer st) : (p.generateAuthToken st).2.GoodHeld := by
  rcases generateAuthToken_cases p st with ⟨-, error, -, heq⟩ | ⟨-, error, -, -, heq⟩ |
    ⟨hgen, -, heq⟩
  · rw [heq]
    exact fun h => absurd h hstate
  · rw [heq]
    exact fun h => absurd h hstate
  · rw [heq]
    exact fun _ => hgood hgen

theorem gdmcHandleGenAuthToken_goodHeld (hheld : p.GoodHeld) (hgood : GoodAnswer st) :
    (p.gdmcHandleGenAuthToken st).2.GoodHeld := by
  by_cases hsize : st.msgoutSize.toNat < messageSize (CStruct.sizeOf gdmcActmsgResp)
  · unfold gdmcHandleGenAuthToken
    rw [if_pos hsize]
    exact hheld
  · rw [gdmcHandleGenAuthToken_eq (Nat.not_lt.mp hsize)]
    split
    · exact hheld
    · exact generateAuthToken_goodHeld (atGenerate_state (Nat.not_lt.mp hsize)) hgood

theorem gdmcHandleValidateAuthToken_inst :
    (p.gdmcHandleValidateAuthToken st).2.inst = p.inst := by
  unfold gdmcHandleValidateAuthToken
  by_cases hsize : st.msgoutSize.toNat < messageSize (CStruct.sizeOf gdmcErrorMsg)
  · rw [if_pos hsize]
    rfl
  · rw [if_neg hsize]
    by_cases hstate : p.inst.state ≠ .haveAuthtok
    · rw [if_pos hstate]
      rfl
    · rw [if_neg hstate]
      rfl

theorem step_goodHeld (hheld : p.GoodHeld) (hgood : GoodAnswer st) :
    (p.gdmcProvExecuteProvisioningStep st).2.GoodHeld := by
  have hcleared : GoodHeld { p with out := clear st.msgout st.msgoutSize } := hheld
  unfold gdmcProvExecuteProvisioningStep
  by_cases hvalid : gdmcValidateProvMessage st.msgin st.msginSize = .ok
  · rw [if_neg (not_not_intro hvalid)]
    dsimp only
    split
    · exact gdmcHandleGetSUID_goodHeld hcleared
    · split
      · exact gdmcHandleGenAuthToken_goodHeld hcleared hgood
      · split
        · unfold GoodHeld
          rw [gdmcHandleValidateAuthToken_inst]
          exact hheld
        · exact hheld
  · rw [if_pos hvalid]
    exact hheld

end Steps

/-! ## Runs -/

theorem goodHeld_run {sts : List ProvisioningStep} {p : Provisioning}
    (hgood : ∀ s ∈ sts, GoodAnswer s)
    (hrun : system.run gdmcProvBeginProvisioning sts = some p) : p.GoodHeld := by
  have hbegin : GoodHeld gdmcProvBeginProvisioning := fun h => GdmcState.noConfusion h
  refine TransitionSystem.run_invariant (C := fun _ st => GoodAnswer st) (I := GoodHeld) ?_
    hbegin (TransitionSystem.stepsMeet_of_labels hgood) hrun
  intro p st p' hheld hst hstep
  cases hstep
  exact step_goodHeld hheld hst

/-- A message of the library and the text in it: a report of an error with any text, and what a
step of an instance composes. -/
inductive Composed : Buffer → Option (List UInt8) → Prop where
  | report {error : GdError} {text : List UInt8} {initialSize : UInt32} {out out' : Buffer}
      (h : gdmcComposeErrorMessage error text initialSize out = (.ok, out')) :
      Composed out' (some text)
  | step {sts : List ProvisioningStep} {p : Provisioning} {st : ProvisioningStep}
      (hsts : ∀ s ∈ sts, GoodAnswer s) (hst : GoodAnswer st)
      (hrun : system.run gdmcProvBeginProvisioning sts = some p)
      (hsize : (p.gdmcProvExecuteProvisioningStep st).2.out.size ≠ 0) :
      Composed (p.gdmcProvExecuteProvisioningStep st).2.out (p.errorText st)

/-- What the library composes is validated exactly when its text fills whole words. -/
theorem accepted_iff {out : Buffer} {text : Option (List UInt8)} (h : Composed out text) :
    Accepted out ↔ FillsWords text := by
  cases h with
  | @report error text initialSize before _ heq =>
      unfold gdmcComposeErrorMessage at heq
      split at heq
      · exact absurd (congrArg Prod.fst heq) (show GdError.bufferTooSmall ≠ .ok by decide)
      · have hout : Buffer.mk (errorMessage error text before.bytes) (errorMsgsize text) = out :=
          congrArg Prod.snd heq
        rw [← hout, accepted_errorMessage_iff]
        exact ⟨fun hwords _ heq => Option.some.inj heq ▸ hwords, fun hfills => hfills text rfl⟩
  | step hsts hst hrun hsize =>
      exact (composes_step hst (goodHeld_run hsts hrun)).fills_iff hsize

/-- A step with an empty message, and a secure world that does not answer. -/
def emptyStep : ProvisioningStep where
  msgin := fun _ => 0
  msginSize := 0
  msgout := fun _ => 0
  msgoutSize := 256
  getSuid := ⟨false, false, 0, 0, zeros suidLength⟩
  genAuthToken := ⟨false, false, 0, 0, zeros authtokSize⟩
  writecb := none
  readcb := none

theorem goodAnswer_emptyStep : GoodAnswer emptyStep :=
  fun h => absurd h.1 Bool.false_ne_true

theorem errorText_emptyStep : gdmcProvBeginProvisioning.errorText emptyStep = some errmsg0006 :=
  rfl

/-- `sizeof` of the report: the text has 26 characters. -/
theorem size_emptyStep :
    (gdmcProvBeginProvisioning.gdmcProvExecuteProvisioningStep emptyStep).2.out.size = 52 := by
  decide

/-- The report of an unexpected message is validated, and the one of a message that was not
validated is not. -/
theorem accepted_reports :
    Accepted ⟨errorMessage .unknown errmsg0007 fun _ => 0, errorMsgsize errmsg0007⟩ ∧
    ¬ Accepted (gdmcProvBeginProvisioning.gdmcProvExecuteProvisioningStep emptyStep).2.out := by
  constructor
  · have hcompose : gdmcComposeErrorMessage .unknown errmsg0007 256 ⟨fun _ => 0, 0⟩ =
        (.ok, ⟨errorMessage .unknown errmsg0007 fun _ => 0, errorMsgsize errmsg0007⟩) :=
      if_neg (by decide)
    refine (accepted_iff (.report hcompose)).mpr fun text htext => ?_
    rw [← Option.some.inj htext]
    decide
  · have hsize := size_emptyStep
    have hcomposed : Composed _ (gdmcProvBeginProvisioning.errorText emptyStep) :=
      .step (fun s hs => absurd hs List.not_mem_nil) goodAnswer_emptyStep rfl (by omega)
    rw [accepted_iff hcomposed]
    exact fun hfills => absurd (hfills errmsg0006 errorText_emptyStep) (by decide)

/-- The report of a message that was not validated is not validated either. -/
theorem not_accepted : ¬ ∀ (sts : List ProvisioningStep) (p : Provisioning)
    (st : ProvisioningStep), (∀ s ∈ sts, GoodAnswer s) → GoodAnswer st →
    system.run gdmcProvBeginProvisioning sts = some p →
    (p.gdmcProvExecuteProvisioningStep st).2.out.size ≠ 0 →
      Accepted (p.gdmcProvExecuteProvisioningStep st).2.out := by
  intro h
  have hsize := size_emptyStep
  have haccepted := h [] gdmcProvBeginProvisioning emptyStep
    (fun s hs => absurd hs List.not_mem_nil) goodAnswer_emptyStep rfl (by omega)
  have hcomposes := composes_step goodAnswer_emptyStep (p := gdmcProvBeginProvisioning)
    fun h => GdmcState.noConfusion h
  have hfills := (hcomposes.fills_iff (by omega)).mp haccepted
  exact absurd (hfills errmsg0006 errorText_emptyStep) (by decide)

end Provisioning

end Exynos8890.ProvLib
