import IwlwifiStack.CrossLinkModel
import IwlwifiStack.MultiLinkAccess

/-!
# The profiles that channel switches of other links are taken from

Each profile that is defragmented in place takes less room than its subelement with the fragments,
so the others stay intact.  What stands behind a profile may be taken for a fragment only if its
link ID is 14, and then no other link comes after it.
-/

namespace IwlwifiStack

open TagLengthValue

/-! ## Subelements -/

theorem mem_items_length_lt {start : ℕ} {octets : List UInt8} {item : Item}
    (hmem : item ∈ items start octets) : item.data.length < 256 := by
  induction start, octets using items_induction with
  | hstop start octets hstop =>
      rw [hstop] at hmem
      cases hmem
  | hitem start id length rest hlength ih =>
      rw [items_cons hlength] at hmem
      rcases List.mem_cons.mp hmem with hfirst | hlater
      · rw [hfirst, List.length_take, min_eq_left hlength]
        exact length.toNat_lt
      · exact ih hlater

variable {common : ℕ} {ml : List UInt8} {sub other : Element}

theorem Element.Within.drop_eq {after : List UInt8}
    (hwithin : sub.Within (mleSubelementBuf common ml) after) :
    ml.drop sub.offset = sub.toItem.octets ++ after ∧
      ml.drop (sub.offset + 2 + sub.data.length) = after ∧ common ≤ sub.offset := by
  rcases hwithin with ⟨_, before, hoctets, hoffset⟩
  have hdrop : ml.drop sub.offset = sub.toItem.octets ++ after := by
    rw [hoffset]
    change ml.drop (common + before.length) = _
    rw [← List.drop_drop]
    change (mleSubelementBuf common ml).octets.drop before.length = _
    rw [hoctets, List.append_assoc, List.drop_left]
  apply And.intro hdrop
  constructor
  · rw [Nat.add_assoc, ← List.drop_drop, hdrop]
    apply List.drop_left'
    rw [Item.octets_length]
    omega
  · rw [hoffset]
    exact Nat.le_add_right _ _

def Element.fragmentsEnd (sub : Element) (ml : List UInt8) : ℕ :=
  sub.offset + 2 + sub.data.length + fragmentsSize 254 sub.data.length (sub.behind ml)

theorem within_behind (hmem : sub ∈ (mleSubelementBuf common ml).elements) :
    sub.Within (mleSubelementBuf common ml) (ml.drop (sub.offset + 2 + sub.data.length)) ∧
      ml.drop sub.offset =
        sub.toItem.octets ++ ml.drop (sub.offset + 2 + sub.data.length) := by
  rcases List.append_of_mem hmem with ⟨before, following, hsplit⟩
  rcases within_of_elements hsplit with ⟨after, hwithin, _⟩
  rcases hwithin.drop_eq with ⟨hdrop, hafter, _⟩
  rw [hafter]
  exact ⟨hwithin, hdrop⟩

theorem sub_data_length_lt (hmem : sub ∈ (mleSubelementBuf common ml).elements) :
    sub.data.length < 256 := by
  have hitem := List.mem_map_of_mem (f := Element.toItem) hmem
  rw [elements_map_toItem] at hitem
  exact mem_items_length_lt hitem

theorem split_of_mem {α : Type*} {l : List α} {x y : α} (hx : x ∈ l) (hy : y ∈ l)
    (hne : x ≠ y) :
    (∃ before following, l = before ++ x :: following ∧ y ∈ following) ∨
      ∃ before following, l = before ++ y :: following ∧ x ∈ following := by
  rcases List.append_of_mem hx with ⟨before, following, hsplit⟩
  rw [hsplit, List.mem_append, List.mem_cons] at hy
  rcases hy with hbefore | hsame | hfollowing
  · right
    rcases List.append_of_mem hbefore with ⟨first, between, hfirst⟩
    apply Exists.intro first
    apply Exists.intro (between ++ x :: following)
    constructor
    · rw [hsplit, hfirst, List.append_assoc, List.cons_append]
    · exact List.mem_append_right _ List.mem_cons_self
  · exact absurd hsame.symm hne
  · exact Or.inl ⟨before, following, hsplit, hfollowing⟩

theorem fragmentsEnd_of_following {before following : List Element}
    (hsplit : (mleSubelementBuf common ml).elements = before ++ sub :: following)
    (hother : other ∈ following) (hid : other.id ≠ 254) :
    other.offset = sub.fragmentsEnd ml ∨ sub.fragmentsEnd ml + 2 ≤ other.offset := by
  rcases within_of_elements hsplit with ⟨after, hwithin, hafter⟩
  rcases hwithin.drop_eq with ⟨_, hdrop, _⟩
  have hitem : other.toItem ∈ sub.behind ml := by
    rw [Element.behind, hdrop, hafter]
    exact List.mem_map_of_mem hother
  exact offset_behind_fragments hitem hid sub.data.length

/-! ## Subelements that are intact -/

/-- The bytes of a subelement and its fragments are as at first, and nothing behind them
continues them. -/
structure Element.Intact (sub : Element) (ml current : List UInt8) : Prop where
  length_eq : current.length = ml.length
  same : ∀ i, sub.offset ≤ i → i < sub.fragmentsEnd ml → current[i]? = ml[i]?
  ends : (∀ i < 2, current[sub.fragmentsEnd ml + i]? = ml[sub.fragmentsEnd ml + i]?) ∨
    current[sub.fragmentsEnd ml]? ≠ some 254

theorem Element.intact_self (sub : Element) (ml : List UInt8) : sub.Intact ml ml where
  length_eq := rfl
  same := fun _ _ _ => rfl
  ends := Or.inl fun _ _ => rfl

namespace Element.Intact

variable {current : List UInt8}

theorem offset_lt (hmem : sub ∈ (mleSubelementBuf common ml).elements) :
    sub.offset + 2 + sub.data.length ≤ ml.length := by
  have hlength := congrArg List.length (within_behind hmem).2
  rw [List.length_drop, List.length_append, Item.octets_length, List.length_drop] at hlength
  omega

theorem drop_eq (hintact : sub.Intact ml current)
    (hmem : sub ∈ (mleSubelementBuf common ml).elements) :
    current.drop sub.offset =
      sub.toItem.octets ++ current.drop (sub.offset + 2 + sub.data.length) := by
  have hdrop := (within_behind hmem).2
  have htake : (current.drop sub.offset).take (sub.data.length + 2) = sub.toItem.octets := by
    have hoctets : (ml.drop sub.offset).take (sub.data.length + 2) = sub.toItem.octets := by
      rw [hdrop]
      exact List.take_left' (Item.octets_length _)
    rw [← hoctets]
    apply List.ext_getElem?
    intro i
    by_cases hi : i < sub.data.length + 2
    · rw [List.getElem?_take_of_lt hi, List.getElem?_take_of_lt hi, List.getElem?_drop,
        List.getElem?_drop]
      apply hintact.same
      · exact Nat.le_add_right _ _
      · unfold Element.fragmentsEnd
        omega
    · rw [List.getElem?_eq_none (by rw [List.length_take]; omega),
        List.getElem?_eq_none (by rw [List.length_take]; omega)]
  have hrest : sub.offset + 2 + sub.data.length = sub.offset + (sub.data.length + 2) := by
    omega
  rw [hrest, ← List.drop_drop, ← htake, List.take_append_drop]

theorem elementAt_eq (hintact : sub.Intact ml current)
    (hmem : sub ∈ (mleSubelementBuf common ml).elements) : elementAt current sub.offset = sub := by
  have hdrop := hintact.drop_eq hmem
  have hshort := sub_data_length_lt hmem
  have hoctet : ∀ i, current.getD (sub.offset + i) 0 =
      (sub.toItem.octets ++ current.drop (sub.offset + 2 + sub.data.length)).getD i 0 := by
    intro i
    rw [List.getD_eq_getElem?_getD, List.getD_eq_getElem?_getD, ← hdrop, List.getElem?_drop]
  have hid : current.getD sub.offset 0 = sub.id := hoctet 0
  have hlength : dataOctet current (sub.offset + 1) = sub.data.length := by
    rw [dataOctet, hoctet 1]
    change (UInt8.ofNat sub.data.length).toNat = _
    exact UInt8.toNat_ofNat_of_lt' hshort
  have hdata : (current.drop (sub.offset + 2)).take sub.data.length = sub.data := by
    rw [← List.drop_drop, hdrop]
    exact List.take_left' rfl
  have horigin := origin_of_mem_elements hmem
  unfold elementAt
  rw [hid, hlength, hdata]
  cases sub
  simp only at horigin
  rw [horigin]
  rfl

theorem within (hintact : sub.Intact ml current)
    (hmem : sub ∈ (mleSubelementBuf common ml).elements) :
    sub.Within (mleSubelementBuf common current)
      (current.drop (sub.offset + 2 + sub.data.length)) := by
  rcases (within_behind hmem).1 with ⟨horigin, before, hoctets, hoffset⟩
  apply And.intro horigin
  apply Exists.intro ((current.drop common).take before.length)
  constructor
  · have hdrop := hintact.drop_eq hmem
    have hplace : current.drop sub.offset = (current.drop common).drop before.length := by
      rw [List.drop_drop, hoffset]
      rfl
    rw [hplace] at hdrop
    change current.drop common = _
    rw [List.append_assoc, ← hdrop, List.take_append_drop]
  · have hinside := offset_lt hmem
    have hlength := hintact.length_eq
    rw [List.length_take, List.length_drop]
    change sub.offset = common + before.length at hoffset
    change sub.offset = common + _
    omega

theorem profile_eq (hintact : sub.Intact ml current) :
    sub.profile current = sub.profile ml := by
  have hfragments : continuation 254 sub.data.length (sub.behind current) =
      continuation 254 sub.data.length (sub.behind ml) := by
    have hlength := hintact.length_eq
    apply continuation_congr
    · rw [List.length_drop, List.length_drop, hlength]
    · intro i hi
      rw [List.getElem?_drop, List.getElem?_drop]
      apply hintact.same
      · omega
      · unfold Element.fragmentsEnd
        exact Nat.add_lt_add_left hi _
    · rcases hintact.ends with hagree | hother
      · left
        intro i hi
        rw [List.getElem?_drop, List.getElem?_drop, ← Nat.add_assoc]
        exact hagree i hi
      · right
        rw [List.getElem?_drop]
        exact hother
  unfold Element.profile Element.contents fragmentData
  rw [hfragments]

end Element.Intact

/-! ## Defragmenting in place -/

theorem copyAt_length {out src : List UInt8} {offset : ℕ}
    (hroom : offset + src.length ≤ out.length) : (copyAt out offset src).length = out.length := by
  unfold copyAt
  simp only [List.length_append, List.length_take, List.length_drop]
  omega

theorem copyAt_drop {out src : List UInt8} {offset : ℕ}
    (hroom : offset + src.length ≤ out.length) :
    (copyAt out offset src).drop offset = src ++ out.drop (offset + src.length) := by
  unfold copyAt
  rw [List.append_assoc]
  apply List.drop_left'
  rw [List.length_take]
  omega

theorem copyAt_getElem?_outside {out src : List UInt8} {offset i : ℕ}
    (hroom : offset + src.length ≤ out.length) (hi : i < offset ∨ offset + src.length ≤ i) :
    (copyAt out offset src)[i]? = out[i]? := by
  have htake : (out.take offset).length = offset := by
    rw [List.length_take]
    omega
  unfold copyAt
  rw [List.append_assoc]
  rcases hi with hbefore | hbehind
  · rw [List.getElem?_append_left (by omega), List.getElem?_take_of_lt hbefore]
  · rw [List.getElem?_append_right (by omega), List.getElem?_append_right (by omega),
      List.getElem?_drop]
    congr 1
    omega

theorem copyAt_getElem?_first {out src : List UInt8} {offset : ℕ} (hne : src ≠ [])
    (hroom : offset + src.length ≤ out.length) :
    (copyAt out offset src)[offset]? = src[0]? := by
  have hfirst := congrArg (fun l => l[0]?) (copyAt_drop hroom)
  simp only [List.getElem?_drop, Nat.add_zero] at hfirst
  rw [hfirst, List.getElem?_append_left (List.length_pos_of_ne_nil hne)]

theorem profile_eq_append (hid : sub.id = 0) :
    sub.profile ml = sub.data ++ fragmentData 254 sub.data.length (sub.behind ml) := by
  unfold Element.profile Element.contents Element.payload
  rw [hid]
  rfl

theorem profile_end_lt (hid : sub.id = 0) :
    sub.offset + (sub.profile ml).length + 2 ≤ sub.fragmentsEnd ml := by
  have hfragments := fragmentData_length_le_size 254 sub.data.length (sub.behind ml)
  rw [profile_eq_append hid, List.length_append]
  unfold Element.fragmentsEnd
  omega

theorem fragmentsSize_items_le (fragId : UInt8) (start length : ℕ) (octets : List UInt8) :
    fragmentsSize fragId length (items start octets) ≤ octets.length := by
  induction start, octets using items_induction generalizing length with
  | hstop start octets hstop =>
      rw [hstop]
      exact Nat.zero_le _
  | hitem start id octet rest hoctet ih =>
      have hrest := ih octet.toNat
      rw [List.length_drop] at hrest
      rw [items_cons hoctet, fragmentsSize_cons, List.length_take, min_eq_left hoctet]
      simp only [List.length_cons]
      split
      · omega
      · exact Nat.zero_le _

theorem fragmentsEnd_le (hmem : sub ∈ (mleSubelementBuf common ml).elements) :
    sub.fragmentsEnd ml ≤ ml.length := by
  have hinside := Element.Intact.offset_lt hmem
  have hsize := fragmentsSize_items_le 254 (sub.offset + 2 + sub.data.length) sub.data.length
    (ml.drop (sub.offset + 2 + sub.data.length))
  rw [List.length_drop] at hsize
  unfold Element.fragmentsEnd Element.behind
  omega

/-- Defragmenting one subelement in place leaves another one intact, unless the profile begins
like a fragment. -/
theorem Element.Intact.copyAt {current : List UInt8} (hintact : other.Intact ml current)
    (hsub : sub ∈ (mleSubelementBuf common ml).elements)
    (hother : other ∈ (mleSubelementBuf common ml).elements) (hne : sub ≠ other)
    (hid : sub.id = 0) (hotherId : other.id = 0) (hdata : sub.data ≠ [])
    (hbegin : sub.data[0]? ≠ some 254) :
    other.Intact ml (copyAt current sub.offset (sub.profile ml)) := by
  have hlength := hintact.length_eq
  have hend := @profile_end_lt ml sub hid
  have hfragments := fragmentsEnd_le hsub
  have hroom : sub.offset + (sub.profile ml).length ≤ current.length := by omega
  have hprofile : sub.profile ml ≠ [] := by
    rw [profile_eq_append hid]
    exact List.append_ne_nil_of_left_ne_nil hdata _
  have hfirst : (sub.profile ml)[0]? = sub.data[0]? := by
    rw [profile_eq_append hid,
      List.getElem?_append_left (List.length_pos_of_ne_nil hdata)]
  rcases split_of_mem hsub hother hne with
    ⟨before, following, hsplit, hfollowing⟩ | ⟨before, following, hsplit, hfollowing⟩
  · -- The other one stands behind the copy.
    have hplace : sub.fragmentsEnd ml ≤ other.offset := by
      have hoffset := fragmentsEnd_of_following hsplit hfollowing (by rw [hotherId]; decide)
      omega
    have hfrom : other.offset ≤ other.fragmentsEnd ml := by
      unfold Element.fragmentsEnd
      omega
    constructor
    · rw [copyAt_length hroom, hlength]
    · intro i hlow hhigh
      rw [copyAt_getElem?_outside hroom (by omega)]
      exact hintact.same i hlow hhigh
    · rcases hintact.ends with hagree | hstops
      · left
        intro i hi
        rw [copyAt_getElem?_outside hroom (by omega)]
        exact hagree i hi
      · right
        rw [copyAt_getElem?_outside hroom (by omega)]
        exact hstops
  · -- The copy stands behind the fragments of the other one.
    have hplace := fragmentsEnd_of_following hsplit hfollowing (by rw [hid]; decide)
    constructor
    · rw [copyAt_length hroom, hlength]
    · intro i hlow hhigh
      rw [copyAt_getElem?_outside hroom (by omega)]
      exact hintact.same i hlow hhigh
    · rcases hplace with hdirectly | hlater
      · right
        rw [← hdirectly, copyAt_getElem?_first hprofile hroom, hfirst]
        exact hbegin
      · rcases hintact.ends with hagree | hstops
        · left
          intro i hi
          rw [copyAt_getElem?_outside hroom (by omega)]
          exact hagree i hi
        · right
          rw [copyAt_getElem?_outside hroom (by omega)]
          exact hstops

end IwlwifiStack
