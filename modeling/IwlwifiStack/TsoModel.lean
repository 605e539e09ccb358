import IwlwifiStack.ListChunks

/-!
# TSO packets of the MLD driver

`iwl_mld_tx_tso_segment` with `iwl_tx_tso_segment`, and the limits that
`iwl_mld_handle_tlc_notif` leaves for them.  `skb_gso_segment` is not in this
source; it is a parameter.  An A-MSDU is what the transport builds from an skb
with the A-MSDU bit: subframes of `gso_size` bytes of the TCP payload.
-/

namespace IwlwifiStack

/-! ## The limits -/

/-- The fields of `struct ieee80211_sta_aggregates`; the limits are `u16`. -/
structure StaAggregates where
  maxAmsduLen : ℕ
  maxRcAmsduLen : ℕ
  maxTidAmsduLen : ℕ → ℕ
  maxTidAmsduLen_lt : ∀ tid, maxTidAmsduLen tid < 2 ^ 16

/-- What `iwl_mld_get_amsdu_size_of_tid` reads of the station and the device.
`txfifoSize` is `smem_cfg.lmac[].txfifo_size[]` and `txFifo` is
`iwl_mld_mac80211_ac_to_fw_tx_fifo`. -/
structure AmsduFifos where
  hasHe : Bool
  oneLink : Bool
  bandLmac : ℕ
  cdb : Bool
  txFifo : ℕ → ℕ
  txfifoSize : ℕ → ℕ → ℕ

/-- `IEEE80211_AC_VO` is 0, `VI` 1, `BE` 2 and `BK` 3. -/
def tidToMac80211Ac : List ℕ :=
  [2, 3, 3, 2, 1, 1, 0, 0]

def AmsduFifos.limit (fifos : AmsduFifos) (lmac txf : ℕ) : ℕ :=
  (fifos.txfifoSize lmac txf + 2 ^ 32 - 256) % 2 ^ 32

/-- `IWL_LMAC_24G_INDEX` is 0 and `IWL_LMAC_5G_INDEX` is 1. -/
def iwlMldGetAmsduSizeOfTid (fifos : AmsduFifos) (maxRcAmsduLen tid : ℕ) : ℕ :=
  match tidToMac80211Ac[tid]? with
  | none => 0
  | some ac =>
      let txf := fifos.txFifo (if fifos.hasHe then ac + 4 else ac)
      let result :=
        if fifos.oneLink then
          min maxRcAmsduLen (fifos.limit fifos.bandLmac txf)
        else if fifos.cdb then
          min (min maxRcAmsduLen (fifos.limit 1 txf)) (fifos.limit 0 txf)
        else
          min maxRcAmsduLen (fifos.limit 0 txf)
      result % 2 ^ 16

theorem iwlMldGetAmsduSizeOfTid_lt (fifos : AmsduFifos)
    (maxRcAmsduLen tid : ℕ) :
    iwlMldGetAmsduSizeOfTid fifos maxRcAmsduLen tid < 2 ^ 16 := by
  unfold iwlMldGetAmsduSizeOfTid
  cases tidToMac80211Ac[tid]? with
  | none => exact Nat.two_pow_pos 16
  | some ac => exact Nat.mod_lt _ (Nat.two_pow_pos 16)

/-- `struct iwl_tlc_update_notif`, as far as it is about A-MSDUs. -/
structure TlcNotif where
  amsdu : Bool
  amsduEnabled : ℕ
  amsduSize : ℕ

/-- The aggregates of the link after `iwl_mld_handle_tlc_notif`;
`IWL_MAX_TID_COUNT` is 8. -/
def iwlMldHandleTlcNotif (fifos : AmsduFifos) (agg : StaAggregates)
    (notif : TlcNotif) : StaAggregates :=
  if !notif.amsdu then
    agg
  else
    let size := if notif.amsduSize % 2 ^ 16 < 2000 then 0
      else notif.amsduSize % 2 ^ 16
    let enabled := if notif.amsduSize % 2 ^ 16 < 2000 then 0
      else notif.amsduEnabled
    if size > agg.maxAmsduLen then
      agg
    else
      { agg with
        maxRcAmsduLen := size
        maxTidAmsduLen := fun i =>
          if 8 ≤ i then agg.maxTidAmsduLen i
          else if enabled.testBit i then iwlMldGetAmsduSizeOfTid fifos size i
          else 1
        maxTidAmsduLen_lt := fun i => by
          have hkept := agg.maxTidAmsduLen_lt i
          have hnew := iwlMldGetAmsduSizeOfTid_lt fifos size i
          split_ifs <;> omega }

/-- `cur` is what `ieee80211_sta_recalc_aggregates` takes from the links. -/
structure TsoSta where
  cur : StaAggregates
  maxAmsduSubframes : ℕ

/-! ## Packets -/

inductive TsoProtocol
  | ipv4
  /-- With the next header of the IPv6 header; TCP is 6. -/
  | ipv6 (nexthdr : ℕ)
  deriving DecidableEq, Repr

/-- A TCP packet as an skb: the part of the payload behind the headers in the
linear data, and the fragments.  `checkedId` is the identification that the IP
header checksum was computed for. -/
structure TsoSkb where
  isDataQos : Bool
  tid : ℕ
  amsduPresent : Bool
  protocol : TsoProtocol
  networkHeaderLen : ℕ
  tcpHdrlen : ℕ
  ipId : ℕ
  checkedId : ℕ
  gsoSize : ℕ
  gsoTcp : Bool
  head : List UInt8
  frags : List (List UInt8)
  cb : ℕ
  deriving DecidableEq, Repr

namespace TsoSkb

def payload (skb : TsoSkb) : List UInt8 :=
  skb.head ++ skb.frags.flatten

/-- `snap_ip_tcp`, a `u16`. -/
def snapIpTcp (skb : TsoSkb) : ℕ :=
  (8 + skb.networkHeaderLen + skb.tcpHdrlen) % 2 ^ 16

/-- Subframe header, SNAP, IP and TCP header, and a full segment. -/
def subfLen (skb : TsoSkb) : ℕ :=
  14 + skb.snapIpTcp + skb.gsoSize

def isIpv4 (skb : TsoSkb) : Bool :=
  match skb.protocol with
  | .ipv4 => true
  | .ipv6 _ => false

/-- IPv6 with extension headers. -/
def hasExtension (skb : TsoSkb) : Bool :=
  match skb.protocol with
  | .ipv4 => false
  | .ipv6 nexthdr => decide (nexthdr ≠ 6)

end TsoSkb

/-- The padding that fills `len` up to a multiple of four. -/
def subframePad (len : ℕ) : ℕ :=
  (4 - len % 4) % 4

/-! ## Segmentation -/

/-- `skb_gso_segment`; the flag is `NETIF_F_CSUM_MASK`. -/
abbrev SkbGsoSegment :=
  TsoSkb → Bool → Except ℤ (List TsoSkb)

/-- One round of the loop over the segments. -/
def TsoSkb.finish (skb : TsoSkb) (orig : TsoSkb) (numSubframes i : ℕ) : TsoSkb :=
  let ipId := if orig.isIpv4 then
    (orig.ipId + i % 2 ^ 16 * numSubframes) % 2 ^ 16 else skb.ipId
  if skb.payload.length > orig.gsoSize then
    { skb with
      cb := orig.cb
      ipId := ipId
      gsoSize := orig.gsoSize
      gsoTcp := true }
  else
    { skb with
      cb := orig.cb
      ipId := ipId
      gsoSize := 0
      checkedId := if orig.isDataQos && orig.isIpv4 then ipId
        else skb.checkedId
      amsduPresent := if orig.isDataQos then false else skb.amsduPresent }

def finishSegments (orig : TsoSkb) (numSubframes : ℕ) :
    ℕ → List TsoSkb → List TsoSkb
  | _, [] => []
  | i, skb :: rest =>
      skb.finish orig numSubframes i ::
        finishSegments orig numSubframes (i + 1) rest

def iwlTxTsoSegment (skbGsoSegment : SkbGsoSegment) (skb : TsoSkb)
    (numSubframes : ℕ) (csum : Bool) : Except ℤ (List TsoSkb) :=
  (skbGsoSegment
      { skb with gsoSize := numSubframes * skb.gsoSize % 2 ^ 16 } csum).map
    fun segs => finishSegments skb numSubframes 0 segs

/-! ## The A-MSDU limits of a packet -/

/-- `num_subframes` before it is overridden. -/
def fittingSubframes (maxTidAmsduLen : ℕ) (skb : TsoSkb) : ℕ :=
  (maxTidAmsduLen + subframePad skb.subfLen) /
    (skb.subfLen + subframePad skb.subfLen)

def numSubframes (sta : TsoSta) (maxSkbFrags : ℕ) (skb : TsoSkb) : ℕ :=
  let fitting := fittingSubframes (sta.cur.maxTidAmsduLen skb.tid) skb
  let wanted :=
    if sta.maxAmsduSubframes ≠ 0 ∧ fitting > sta.maxAmsduSubframes then
      sta.maxAmsduSubframes
    else fitting
  -- two buffers a subframe, one a fragment, one for data in the header
  if wanted * 2 + skb.frags.length + 1 > maxSkbFrags then 1 else wanted

/-- What `iwl_mld_tx_tso_segment` does with a packet. -/
inductive TsoDecision
  | reject (err : ℤ)
  | segment (skb : TsoSkb) (numSubframes : ℕ) (csum : Bool)
  | whole (skb : TsoSkb)

def tsoDecision (sta : TsoSta) (maxSkbFrags : ℕ) (skb : TsoSkb) : TsoDecision :=
  if !skb.isDataQos || decide (sta.cur.maxRcAmsduLen = 0) then
    .segment skb 1 true
  else if skb.hasExtension then
    .segment skb 1 false
  else if 8 ≤ skb.tid then
    .reject (-22)
  else if sta.cur.maxTidAmsduLen skb.tid = 0 then
    .segment skb 1 true
  else
    let count := numSubframes sta maxSkbFrags skb
    let skb := if count > 1 then { skb with amsduPresent := true } else skb
    if skb.payload.length ≤ count * skb.gsoSize then .whole skb
    else .segment skb count true

/-- The answer, or the skbs in `mpdus_skbs`. -/
def iwlMldTxTsoSegment (skbGsoSegment : SkbGsoSegment) (sta : TsoSta)
    (maxSkbFrags : ℕ) (skb : TsoSkb) : Except ℤ (List TsoSkb) :=
  match tsoDecision sta maxSkbFrags skb with
  | .reject err => .error err
  | .segment skb count csum => iwlTxTsoSegment skbGsoSegment skb count csum
  | .whole skb => .ok [skb]

/-! ## On the air -/

/-- The payloads of the subframes of a frame. -/
def TsoSkb.subframes (skb : TsoSkb) : List (List UInt8) :=
  if skb.isDataQos && skb.amsduPresent && decide (skb.gsoSize ≠ 0) then
    ListChunks.chunks skb.gsoSize skb.payload
  else
    [skb.payload]

/-- The length of an A-MSDU: every subframe but the last is padded. -/
def amsduLength (hdrLen : ℕ) : List (List UInt8) → ℕ
  | [] => 0
  | [last] => hdrLen + last.length
  | part :: rest =>
      hdrLen + part.length + subframePad (hdrLen + part.length) +
        amsduLength hdrLen rest

/-- The transport counts the identification up from subframe to subframe. -/
def TsoSkb.airIds (skb : TsoSkb) : List ℕ :=
  (List.range skb.subframes.length).map fun j => (skb.ipId + j) % 2 ^ 16

/-- The buffers of `iwl_txq_gen2_build_amsdu`: one for the headers of every
subframe, and one for each piece of the areas of memory that its data comes
from.  `left` is what the subframe still takes. -/
def amsduBuffers (mss left : ℕ) : List ℕ → ℕ
  | [] => 0
  | area :: areas =>
      if area = 0 then amsduBuffers mss left areas
      else if left = 0 then
        if mss = 0 then 0 else 1 + amsduBuffers mss mss (area :: areas)
      else
        1 + amsduBuffers mss (left - min area left)
          ((area - min area left) :: areas)
  termination_by areas => (areas.sum, areas.length, if left = 0 then 1 else 0)
  decreasing_by
    all_goals simp only [Prod.lex_def, List.sum_cons, List.length_cons]
    all_goals grind

/-- The buffers a frame needs for more than its headers.  The transport makes a
frame with too many fragments linear. -/
def TsoSkb.transferBuffers (skb : TsoSkb) (maxSkbFrags : ℕ) : ℕ :=
  if skb.subframes.length > 1 then
    amsduBuffers skb.gsoSize 0 (skb.head.length :: skb.frags.map List.length)
  else if skb.frags.length > maxSkbFrags then 0
  else skb.frags.length

end IwlwifiStack
