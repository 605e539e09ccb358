import IwlwifiStack.TxPowerEnvelope

/-!
# Channel switches of other links

`ieee80211_mgd_check_cross_link_csa`: the per-STA profiles of a beacon's multi-link element, each
defragmented in place and parsed for its link.  Behind `ml_basic` the memory goes on.
-/

namespace IwlwifiStack

open TagLengthValue

/-- `subelems` and `subelems_len`. -/
def mleSubelementBuf (common : ℕ) (ml : List UInt8) : ElementBuf :=
  ⟨.basicMl, common, ml.drop common⟩

/-- An element as it is read from the memory at `ml_basic`. -/
def elementAt (ml : List UInt8) (offset : ℕ) : Element where
  offset := offset
  id := ml.getD offset 0
  data := (ml.drop (offset + 2)).take (dataOctet ml (offset + 1))
  origin := .basicMl

/-- What becomes of a link: nothing, `handle` without a profile, or `handle` with the elements
of a profile. -/
inductive CrossLink where
  | skipped
  | noProfile
  | parsed (octets : List UInt8)
  deriving DecidableEq, Repr

/-- `reporting_link_id`, and the links that `sdata->link` has. -/
structure CrossLinkEnv where
  reportingLinkId : ℕ
  link : ℕ → Bool

/-- A subelement of a link that is handled. -/
def CrossLinkEnv.names (env : CrossLinkEnv) (linkId : ℕ) (sub : Element) : Bool :=
  sub.id = 0 && ieee80211MleBasicStaProfSizeOk sub.data &&
    getLe16 sub.data 0 % 16 = linkId && linkId ≠ env.reportingLinkId && linkId < 15 &&
    env.link linkId

section Csa

variable (lib : ElemsLib)
  /- `cfg80211_defragment_element` without a buffer. -/
  (defragmentSize : Element → ElementBuf → UInt8 → Option ℕ)
  (env : CrossLinkEnv)

/-- The first loop: `sta_profiles` and `sta_profiles_len`. -/
def staProfiles (buf : ElementBuf) :
    List Element → (ℕ → Option (Element × ℕ)) → ℕ → Option (Element × ℕ)
  | [], profiles => profiles
  | sub :: rest, profiles =>
      let linkId := getLe16 sub.data 0 % 16
      if sub.id ≠ 0 then staProfiles buf rest profiles
      else if ¬ieee80211MleBasicStaProfSizeOk sub.data then staProfiles buf rest profiles
      else if linkId = env.reportingLinkId ∨ 15 ≤ linkId then staProfiles buf rest profiles
      else if ¬env.link linkId then staProfiles buf rest profiles
      else
        match defragmentSize sub buf 254 with
        | none => staProfiles buf rest profiles
        | some len => staProfiles buf rest (Function.update profiles linkId (some (sub, len)))

/-- The body of the second loop, with the memory at `ml_basic` behind it. -/
def crossLinkProfile (profiles : ℕ → Option (Element × ℕ)) (common : ℕ) (behind : List UInt8)
    (ml : List UInt8) (linkId : ℕ) : CrossLink × List UInt8 :=
  if linkId = env.reportingLinkId ∨ ¬env.link linkId then (.skipped, ml)
  else
    match profiles linkId with
    | none => (.noProfile, ml)
    | some (sub, len) =>
        match lib.defragmentElement (some (elementAt ml sub.offset)) (mleSubelementBuf common ml)
          len 254 with
        | none => (.skipped, ml)
        | some prof =>
            let ml := copyAt ml sub.offset prof
            if prof.length ≠ len then (.skipped, ml)
            else
              let staInfoLen := dataOctet ml (sub.offset + 2)
              (.parsed (((ml ++ behind).drop (sub.offset + 3 + (staInfoLen - 1))).take
                (len - (staInfoLen - 1))), ml)

/-- The second loop. -/
def crossLinkProfiles (profiles : ℕ → Option (Element × ℕ)) (common : ℕ)
    (behind : List UInt8) : List ℕ → List UInt8 → List (ℕ × CrossLink)
  | [], _ => []
  | linkId :: rest, ml =>
      let result := crossLinkProfile lib env profiles common behind ml linkId
      (linkId, result.1) :: crossLinkProfiles profiles common behind rest result.2

def ieee80211MgdCheckCrossLinkCsa (ml behind : List UInt8) : List (ℕ × CrossLink) :=
  if ¬ieee80211MleSizeOk ml then []
  else
    let common := ieee80211MleCommonSize ml
    let buf := mleSubelementBuf common ml
    crossLinkProfiles lib env (staProfiles defragmentSize env buf buf.elements fun _ => none)
      common behind (List.range 15) ml

end Csa

end IwlwifiStack
