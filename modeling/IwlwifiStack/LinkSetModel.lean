import IwlwifiStack.ConditionedRun

/-!
# The links of an interface

`ieee80211_vif_set_links` and what it calls.  The two pointer tables of an
interface, `sdata->link` and `vif->link_conf`, hold for each link the two
members of one allocated container, or the embedded `deflink` and `bss_conf`.

What a call reads from elsewhere is its environment: which allocations fail,
the addresses of new links, and the result of the driver.
-/

namespace IwlwifiStack

/-- The interface types that can have links. -/
inductive LinkVifType
  | ap
  | apVlan
  | station
  deriving DecidableEq, Repr

/-- `&sdata->deflink` with `&vif->bss_conf`, or `data` and `conf` of a
`struct link_container`. -/
inductive LinkPtr
  | deflink
  | container (n : ℕ)
  deriving DecidableEq, Repr

/-- `IEEE80211_MLD_MAX_NUM_LINKS` -/
def maxNumLinks : ℕ := 15

/-- `for_each_set_bit` below `IEEE80211_MLD_MAX_NUM_LINKS`. -/
def linkIds (mask : BitVec 16) : List ℕ :=
  (List.range maxNumLinks).filter fun id => mask.getLsbD id

/-- The links of a `struct ieee80211_sub_if_data`; `addr` is `conf->addr`,
`keys` the `link_id` of each key, and `live` the containers that are
allocated. -/
structure VifLinks where
  type : LinkVifType
  validLinks : BitVec 16
  dormantLinks : BitVec 16
  activeLinks : BitVec 16
  link : ℕ → Option LinkPtr
  linkConf : ℕ → Option LinkPtr
  addr : LinkPtr → BitVec 48
  keys : List ℤ
  live : Finset ℕ
  nextContainer : ℕ

/-- The surroundings of one call: `kzalloc` for a link, the address of a new
link, the addresses of the links of the AP that an AP_VLAN belongs to,
`check_sdata_in_driver`, and `change_vif_links` of the driver. -/
structure SetLinksEnv where
  allocFails : ℕ → Bool
  addr : ℕ → BitVec 48
  apConf : ℕ → Option (BitVec 48)
  inDriver : Bool
  changeVifLinks : Option ℤ

def errENOMEM : ℤ := -12
def errEIO : ℤ := -5
def errEOPNOTSUPP : ℤ := -95
def errEALREADY : ℤ := -114
def errEINVAL : ℤ := -22

namespace VifLinks

/-- `kfree` of these containers. -/
def kfree (st : VifLinks) (links : ℕ → Option ℕ) : VifLinks :=
  { st with live := st.live.filter fun n =>
      ∀ id ∈ List.range maxNumLinks, links id ≠ some n }

/-- `ieee80211_link_init` and `ieee80211_link_setup`; a `linkId` of `none` is
the default link.  `none` when an AP_VLAN copies from a link that its AP does
not have. -/
def linkInit (env : SetLinksEnv) (st : VifLinks) (linkId : Option ℕ)
    (ptr : LinkPtr) : Option VifLinks :=
  let id := linkId.getD 0
  let assigned (addr : BitVec 48) : VifLinks :=
    { st with
      addr := Function.update st.addr ptr addr
      link := Function.update st.link id (some ptr)
      linkConf := Function.update st.linkConf id (some ptr) }
  match st.type with
  | .apVlan =>
      (env.apConf id).map fun addr =>
        assigned (if linkId = none then addr else env.addr id)
  | _ =>
      some (assigned (if linkId = none then st.addr ptr else env.addr id))

/-- `ieee80211_set_vif_links_bitmaps` -/
def setVifLinksBitmaps (st : VifLinks) (valid dormant : BitVec 16) :
    VifLinks :=
  if valid = 0 ∨ ~~~valid &&& dormant ≠ 0 ∨ valid &&& ~~~dormant = 0 then
    { st with validLinks := valid, activeLinks := 0, dormantLinks := 0 }
  else
    { st with
      validLinks := valid
      dormantLinks := dormant
      activeLinks :=
        match st.type with
        | .station =>
            if st.activeLinks ≠ 0 then st.activeLinks
            else valid &&& ~~~dormant
        | _ => valid }

/-- `ieee80211_check_dup_link_addrs` finds two links with one address. -/
def dupLinkAddrs (st : VifLinks) : Bool :=
  (List.range maxNumLinks).any fun i =>
    (List.range maxNumLinks).any fun j =>
      i < j &&
        match st.link i, st.link j with
        | some link1, some link2 => st.addr link1 = st.addr link2
        | _, _ => false

/-- `ieee80211_tear_down_links`: the keys of these links are removed, all keys
when the interface is no MLD. -/
def tearDownLinks (st : VifLinks) (toFree : ℕ → Option ℕ)
    (mask : BitVec 16) : VifLinks :=
  { st with keys := st.keys.filter fun key =>
      !(linkIds mask).any fun id =>
        ((toFree id).isSome || id = 0) &&
          (st.validLinks = 0 || key = (id : ℤ)) }

/-- `drv_change_vif_links` -/
def drvChangeVifLinks (env : SetLinksEnv) (oldLinks newLinks : BitVec 16) :
    ℤ :=
  if !env.inDriver then errEIO
  else if oldLinks = newLinks then 0
  else env.changeVifLinks.getD errEOPNOTSUPP

/-- The first loop of `ieee80211_vif_update_links`: whether all containers
could be allocated, and those that were. -/
def allocLinks (env : SetLinksEnv) :
    List ℕ → VifLinks → (ℕ → Option ℕ) → Bool × VifLinks × (ℕ → Option ℕ)
  | [], st, links => (true, st, links)
  | id :: ids, st, links =>
      if env.allocFails id then (false, st, links)
      else
        allocLinks env ids
          { st with
            live := insert st.nextContainer st.live
            nextContainer := st.nextContainer + 1 }
          (Function.update links id (some st.nextContainer))

/-- The old links to free later: not the embedded one. -/
def grabLinks (st : VifLinks) (rem : BitVec 16) (id : ℕ) : Option ℕ :=
  if id ∈ linkIds rem then
    match st.link id with
    | some (.container n) => some n
    | _ => none
  else none

/-- The pointers of removed links are cleared. -/
def clearLinks (st : VifLinks) (rem : BitVec 16) : VifLinks :=
  { st with
    link := fun id => if id ∈ linkIds rem then none else st.link id
    linkConf := fun id => if id ∈ linkIds rem then none else st.linkConf id }

/-- The new containers are linked into the tables. -/
def addLinks (env : SetLinksEnv) (links : ℕ → Option ℕ) :
    List ℕ → VifLinks → Option VifLinks
  | [], st => some st
  | id :: ids, st =>
      match links id with
      | none => none
      | some n =>
          (st.linkInit env (some id) (.container n)).bind fun st =>
            addLinks env links ids st

/-- The label `deinit`. -/
def deinit (env : SetLinksEnv) (useDeflink : Bool) (st : VifLinks) :
    Option VifLinks :=
  if useDeflink then st.linkInit env none .deflink else some st

/-- The links to remove, with the slot of the default link. -/
def removedLinks (st : VifLinks) (newLinks : BitVec 16) : BitVec 16 :=
  (st.validLinks &&& ~~~newLinks) |||
    (if st.validLinks = 0 then 1#16 else 0#16)

/-- `ieee80211_vif_update_links` between the linking of new containers and the
error path: the result and the state. -/
def commitLinks (env : SetLinksEnv) (old : VifLinks) (toFree : ℕ → Option ℕ)
    (newLinks dormantLinks : BitVec 16) (st : VifLinks) : ℤ × VifLinks :=
  if st.dupLinkAddrs then (errEALREADY, st)
  else
    let st := st.tearDownLinks toFree (old.removedLinks newLinks)
    let st := st.setVifLinksBitmaps newLinks dormantLinks
    (if st.type = .apVlan then 0
      else drvChangeVifLinks env (old.validLinks &&& old.activeLinks)
        (newLinks &&& st.activeLinks), st)

/-- The error path of `ieee80211_vif_update_links`. -/
def restoreLinks (old : VifLinks) (dormantLinks : BitVec 16)
    (st : VifLinks) : VifLinks :=
  { st with
    link := old.link
    linkConf := old.linkConf }.setVifLinksBitmaps old.validLinks dormantLinks

/-- `ieee80211_vif_update_links`: the result, the state, and `to_free`. -/
def vifUpdateLinks (env : SetLinksEnv) (old : VifLinks)
    (newLinks dormantLinks : BitVec 16) :
    Option (ℤ × VifLinks × (ℕ → Option ℕ)) :=
  if old.validLinks = newLinks ∧ dormantLinks = old.dormantLinks then
    some (0, old, fun _ => none)
  else
    let add := newLinks &&& ~~~old.validLinks
    let alloc := allocLinks env (linkIds add) old fun _ => none
    if !alloc.1 then
      (deinit env (old.validLinks = 0) (alloc.2.1.kfree alloc.2.2)).map
        fun st => (errENOMEM, st, fun _ => none)
    else
      let rem := old.removedLinks newLinks
      let toFree := old.grabLinks rem
      (addLinks env alloc.2.2 (linkIds add) (alloc.2.1.clearLinks rem)).bind
        fun st => (deinit env (newLinks = 0) st).bind fun st =>
          let committed := commitLinks env old toFree newLinks dormantLinks st
          -- errors are ignored when all links are removed
          if newLinks ≠ 0 ∧ committed.1 ≠ 0 then
            (deinit env (old.validLinks = 0)
              ((old.restoreLinks dormantLinks committed.2).kfree
                alloc.2.2)).map
              fun st => (committed.1, st, fun _ => none)
          else
            (deinit env (newLinks = 0) committed.2).map fun st =>
              (0, st, toFree)

/-- `ieee80211_vif_set_links` -/
def vifSetLinks (env : SetLinksEnv) (st : VifLinks)
    (newLinks dormantLinks : BitVec 16) : Option (ℤ × VifLinks) :=
  (st.vifUpdateLinks env newLinks dormantLinks).map fun result =>
    (result.1, result.2.1.kfree result.2.2)

/-- A new interface with its default link. -/
def initial (type : LinkVifType) (addr : BitVec 48) : VifLinks where
  type := type
  validLinks := 0
  dormantLinks := 0
  activeLinks := 0
  link := fun id => if id = 0 then some .deflink else none
  linkConf := fun id => if id = 0 then some .deflink else none
  addr := fun _ => addr
  keys := []
  live := ∅
  nextContainer := 0

end VifLinks

/-- What changes the links of an interface, its active links
(`_ieee80211_set_active_links`), or its keys. -/
inductive LinkEvent
  | setLinks (env : SetLinksEnv) (newLinks dormantLinks : BitVec 16)
  | setActiveLinks (activeLinks : BitVec 16)
  | addKey (linkId : ℤ)

namespace VifLinks

/-- One event, with the result of the call; `none` when it does not return. -/
def step (st : VifLinks) : LinkEvent → Option (VifLinks × List ℤ)
  | .setLinks env newLinks dormantLinks =>
      (st.vifSetLinks env newLinks dormantLinks).map fun result =>
        (result.2, [result.1])
  | .setActiveLinks activeLinks =>
      if st.type = .station ∧ activeLinks ≠ 0 ∧
          activeLinks &&& ~~~(st.validLinks &&& ~~~st.dormantLinks) = 0 then
        some ({ st with activeLinks := activeLinks }, [0])
      else some (st, [-22])
  | .addKey linkId => some ({ st with keys := linkId :: st.keys }, [0])

end VifLinks

end IwlwifiStack
