import Mathlib.Data.List.Basic
import Mathlib.Tactic

/-!
# Items of tag, length and value

A byte string read as a sequence of items: one byte of tag, one byte of length
and the value.  The reading stops in front of an item that the bytes do not
hold completely.  A value of 255 bytes goes on in the items of a fragment tag
that follow.
-/

namespace TagLengthValue

/-- An item and the address of its tag. -/
structure Item where
  offset : ℕ
  id : UInt8
  data : List UInt8
  deriving DecidableEq, Repr

/-- The items up to a bound on their number, and the bytes left over. -/
def walk : ℕ → ℕ → List UInt8 → List Item × List UInt8
  | bound + 1, start, id :: length :: rest =>
      if length.toNat ≤ rest.length then
        let tail := walk bound (start + 2 + length.toNat)
          (rest.drop length.toNat)
        (⟨start, id, rest.take length.toNat⟩ :: tail.1, tail.2)
      else
        ([], id :: length :: rest)
  | _, _, octets => ([], octets)

def items (start : ℕ) (octets : List UInt8) : List Item :=
  (walk octets.length start octets).1

def leftover (start : ℕ) (octets : List UInt8) : List UInt8 :=
  (walk octets.length start octets).2

def Item.octets (item : Item) : List UInt8 :=
  item.id :: UInt8.ofNat item.data.length :: item.data

@[simp] theorem Item.octets_length (item : Item) :
    item.octets.length = item.data.length + 2 := rfl

theorem walk_eq {bound other start : ℕ} {octets : List UInt8}
    (hbound : octets.length ≤ bound) (hother : octets.length ≤ other) :
    walk bound start octets = walk other start octets := by
  induction bound generalizing other start octets with
  | zero =>
      have hnil : octets = [] := List.eq_nil_of_length_eq_zero (by omega)
      subst hnil
      cases other <;> rfl
  | succ bound ih =>
      match octets with
      | [] => cases other <;> rfl
      | [_] => cases other <;> rfl
      | id :: length :: rest =>
          simp only [List.length_cons] at hbound hother
          obtain ⟨other, rfl⟩ : ∃ m, other = m + 1 := ⟨other - 1, by omega⟩
          have hrest : (rest.drop length.toNat).length ≤ rest.length := by
            rw [List.length_drop]
            omega
          have hwalk := @ih other (start + 2 + length.toNat) _
            (hrest.trans (by omega)) (hrest.trans (by omega))
          simp only [walk, hwalk]

theorem items_cons {start : ℕ} {id length : UInt8} {rest : List UInt8}
    (hlength : length.toNat ≤ rest.length) :
    items start (id :: length :: rest) =
      ⟨start, id, rest.take length.toNat⟩ ::
        items (start + 2 + length.toNat) (rest.drop length.toNat) := by
  have hrest : (rest.drop length.toNat).length ≤ rest.length + 1 := by
    rw [List.length_drop]
    omega
  simp only [items, List.length_cons, walk, if_pos hlength]
  rw [walk_eq hrest le_rfl]

theorem items_of_short {start : ℕ} {id length : UInt8} {rest : List UInt8}
    (hlength : rest.length < length.toNat) :
    items start (id :: length :: rest) = [] := by
  simp only [items, List.length_cons, walk, if_neg (Nat.not_le.2 hlength)]

theorem items_induction {P : ℕ → List UInt8 → Prop}
    (hstop : ∀ start octets, items start octets = [] → P start octets)
    (hitem : ∀ start id length rest, length.toNat ≤ rest.length →
      P (start + 2 + length.toNat) (rest.drop length.toNat) →
        P start (id :: length :: rest))
    (start : ℕ) (octets : List UInt8) : P start octets := by
  induction hn : octets.length using Nat.strong_induction_on
    generalizing start octets with
  | _ n ih =>
      match octets with
      | [] => exact hstop start [] rfl
      | [id] => exact hstop start [id] rfl
      | id :: length :: rest =>
          by_cases hlength : length.toNat ≤ rest.length
          · apply hitem start id length rest hlength
            apply ih (rest.drop length.toNat).length _ _ _ rfl
            rw [← hn]
            simp only [List.length_drop, List.length_cons]
            omega
          · exact hstop start _ (items_of_short (Nat.not_le.1 hlength))

/-! ## Where an item stands -/

/-- `item` stands in the bytes from address `start` on, and `after` follows
it. -/
def StandsIn (item : Item) (start : ℕ) (octets after : List UInt8) : Prop :=
  ∃ before, octets = before ++ item.octets ++ after ∧
    item.offset = start + before.length

theorem StandsIn.shift {item : Item} {start : ℕ} {first rest after : List UInt8}
    (hstands : StandsIn item (start + first.length) rest after) :
    StandsIn item start (first ++ rest) after := by
  obtain ⟨before, hrest, hoffset⟩ := hstands
  refine ⟨first ++ before, ?_, ?_⟩
  · rw [hrest]
    simp [List.append_assoc]
  · rw [hoffset, List.length_append, Nat.add_assoc]

theorem StandsIn.length_le {item : Item} {start : ℕ}
    {octets after : List UInt8} (hstands : StandsIn item start octets after) :
    item.data.length + 2 + after.length ≤ octets.length := by
  obtain ⟨before, hoctets, -⟩ := hstands
  have hlength := congrArg List.length hoctets
  simp only [List.length_append, Item.octets_length] at hlength
  omega

/-- An item that is read stands in the bytes, and the items read after it are
those of the bytes behind it. -/
theorem standsIn_of_items {start : ℕ} {octets : List UInt8}
    {before : List Item} {item : Item} {following : List Item}
    (hitems : items start octets = before ++ item :: following) :
    ∃ after, StandsIn item start octets after ∧
      items (item.offset + 2 + item.data.length) after = following := by
  induction start, octets using items_induction generalizing before with
  | hstop start octets hstop =>
      rw [hstop] at hitems
      cases before <;> cases hitems
  | hitem start id length rest hlength ih =>
      rw [items_cons hlength] at hitems
      have htake : (rest.take length.toNat).length = length.toNat := by
        rw [List.length_take, min_eq_left hlength]
      have hsplit : rest.take length.toNat ++ rest.drop length.toNat = rest :=
        List.take_append_drop _ _
      cases before with
      | nil =>
          rw [List.nil_append, List.cons.injEq] at hitems
          obtain ⟨rfl, hfollowing⟩ := hitems
          refine ⟨rest.drop length.toNat, ⟨[], ?_, rfl⟩, ?_⟩
          · simp only [Item.octets, htake, UInt8.ofNat_toNat, List.nil_append,
              List.cons_append, hsplit]
          · rw [htake]
            exact hfollowing
      | cons first before =>
          rw [List.cons_append, List.cons.injEq] at hitems
          obtain ⟨after, hstands, hafter⟩ := ih hitems.2
          have hfirst : id :: length :: rest =
              (id :: length :: rest.take length.toNat) ++
                rest.drop length.toNat := by
            rw [List.cons_append, List.cons_append, hsplit]
          refine ⟨after, ?_, hafter⟩
          rw [hfirst]
          apply StandsIn.shift
          have hshift : start + (id :: length :: rest.take length.toNat).length =
              start + 2 + length.toNat := by
            rw [List.length_cons, List.length_cons, htake]
            omega
          rw [hshift]
          exact hstands

theorem items_size_le (start : ℕ) (octets : List UInt8) :
    ((items start octets).map fun item => item.data.length).sum ≤
      octets.length := by
  induction start, octets using items_induction with
  | hstop start octets hstop => simp [hstop]
  | hitem start id length rest hlength ih =>
      rw [items_cons hlength, List.map_cons, List.sum_cons, List.length_take,
        min_eq_left hlength]
      rw [List.length_drop] at ih
      simp only [List.length_cons]
      omega

theorem items_append_leftover (start : ℕ) (octets : List UInt8) :
    (items start octets).flatMap Item.octets ++ leftover start octets = octets := by
  unfold items leftover
  generalize octets.length = bound
  induction bound generalizing start octets with
  | zero =>
      cases octets with
      | nil => rfl
      | cons id rest => rfl
  | succ bound ih =>
      match octets with
      | [] => rfl
      | [_] => rfl
      | id :: length :: rest =>
          by_cases hlength : length.toNat ≤ rest.length
          · have htail := ih (start + 2 + length.toNat) (rest.drop length.toNat)
            have htake : (rest.take length.toNat).length = length.toNat := by
              rw [List.length_take, min_eq_left hlength]
            simp only [walk, if_pos hlength, List.flatMap_cons, Item.octets, htake,
              UInt8.ofNat_toNat, List.cons_append, List.append_assoc]
            rw [htail, List.take_append_drop]
          · simp only [walk, if_neg hlength, List.flatMap_nil, List.nil_append]

theorem items_prefix (start : ℕ) (octets more : List UInt8) :
    items start octets <+: items start (octets ++ more) := by
  induction start, octets using items_induction with
  | hstop start octets hstop =>
      rw [hstop]
      exact List.nil_prefix
  | hitem start id length rest hlength ih =>
      have hlonger : length.toNat ≤ (rest ++ more).length := by
        rw [List.length_append]
        omega
      rw [List.cons_append, List.cons_append, items_cons hlength, items_cons hlonger,
        List.take_append_of_le_length hlength, List.drop_append_of_le_length hlength]
      exact (List.prefix_cons_inj _).mpr ih

theorem leftover_eq_nil_iff (start : ℕ) (octets : List UInt8) :
    leftover start octets = [] ↔ octets = (items start octets).flatMap Item.octets := by
  have hall := items_append_leftover start octets
  constructor
  · intro hnil
    rw [hnil, List.append_nil] at hall
    exact hall.symm
  · intro hitems
    rw [← hitems] at hall
    exact List.append_right_eq_self.mp hall

/-! ## Fragments -/

/-- The fragments that continue a value of `length` bytes. -/
def continuation (fragId : UInt8) : ℕ → List Item → List Item
  | _, [] => []
  | length, item :: rest =>
      if length = 255 ∧ item.id = fragId then
        item :: continuation fragId item.data.length rest
      else
        []

def fragmentData (fragId : UInt8) (length : ℕ) (following : List Item) :
    List UInt8 :=
  (continuation fragId length following).flatMap fun item => item.data

theorem continuation_prefix (fragId : UInt8) (length : ℕ)
    (following : List Item) :
    ∃ rest, following = continuation fragId length following ++ rest ∧
      ∀ item ∈ continuation fragId length following, item.id = fragId := by
  induction following generalizing length with
  | nil => exact ⟨[], rfl, by simp [continuation]⟩
  | cons item following ih =>
      by_cases hcontinues : length = 255 ∧ item.id = fragId
      · obtain ⟨rest, hrest, hid⟩ := ih item.data.length
        refine ⟨rest, ?_, ?_⟩
        · rw [continuation, if_pos hcontinues, List.cons_append, ← hrest]
        · rw [continuation, if_pos hcontinues]
          rintro other hother
          rcases List.mem_cons.1 hother with rfl | hmem
          · exact hcontinues.2
          · exact hid other hmem
      · refine ⟨item :: following, ?_, ?_⟩
        · rw [continuation, if_neg hcontinues, List.nil_append]
        · rw [continuation, if_neg hcontinues]
          simp

theorem continuation_append_cons (fragId : UInt8) (length : ℕ)
    (between : List Item) {item : Item} (hitem : item.id ≠ fragId)
    (rest : List Item) :
    continuation fragId length (between ++ item :: rest) =
      continuation fragId length between := by
  induction between generalizing length with
  | nil => simp [continuation, hitem]
  | cons first between ih =>
      rw [List.cons_append, continuation, continuation, ih]

theorem fragmentData_length_le (fragId : UInt8) (length : ℕ)
    (following : List Item) :
    (fragmentData fragId length following).length ≤
      (following.map fun item => item.data.length).sum := by
  obtain ⟨rest, hrest, -⟩ := continuation_prefix fragId length following
  have hsum := congrArg (fun l => (l.map fun item => item.data.length).sum) hrest
  rw [List.map_append, List.sum_append] at hsum
  rw [fragmentData, List.length_flatMap]
  omega

def fragmentsSize (fragId : UInt8) (length : ℕ) (following : List Item) : ℕ :=
  ((continuation fragId length following).map fun item => item.data.length + 2).sum

theorem fragmentData_length_le_size (fragId : UInt8) (length : ℕ)
    (following : List Item) :
    (fragmentData fragId length following).length ≤
      fragmentsSize fragId length following := by
  unfold fragmentData fragmentsSize
  induction continuation fragId length following with
  | nil => exact le_rfl
  | cons item rest ih =>
      rw [List.flatMap_cons, List.length_append, List.map_cons, List.sum_cons]
      omega

theorem fragmentsSize_cons (fragId : UInt8) (length : ℕ) (item : Item)
    (following : List Item) :
    fragmentsSize fragId length (item :: following) =
      if length = 255 ∧ item.id = fragId then
        item.data.length + 2 + fragmentsSize fragId item.data.length following
      else 0 := by
  unfold fragmentsSize
  rw [continuation]
  split
  · rw [List.map_cons, List.sum_cons]
  · rfl

theorem offset_of_items {start : ℕ} {octets : List UInt8} {item : Item}
    (hmem : item ∈ items start octets) :
    item.offset = start ∨ start + 2 ≤ item.offset := by
  induction start, octets using items_induction with
  | hstop start octets hstop =>
      rw [hstop] at hmem
      cases hmem
  | hitem start id length rest hlength ih =>
      rw [items_cons hlength] at hmem
      rcases List.mem_cons.mp hmem with hfirst | hlater
      · left
        rw [hfirst]
      · right
        have hoffset := ih hlater
        omega

theorem offset_behind_fragments {fragId : UInt8} {start : ℕ} {octets : List UInt8} {item : Item}
    (hmem : item ∈ items start octets) (hid : item.id ≠ fragId) (length : ℕ) :
    item.offset = start + fragmentsSize fragId length (items start octets) ∨
      start + fragmentsSize fragId length (items start octets) + 2 ≤ item.offset := by
  induction start, octets using items_induction generalizing length with
  | hstop start octets hstop =>
      rw [hstop] at hmem
      cases hmem
  | hitem start id octet rest hoctet ih =>
      have hoffset := offset_of_items hmem
      have htake : (rest.take octet.toNat).length = octet.toNat := by
        rw [List.length_take, min_eq_left hoctet]
      rw [items_cons hoctet] at hmem ⊢
      rw [fragmentsSize_cons, htake]
      split
      · next hcontinues =>
        rcases List.mem_cons.mp hmem with hfirst | hlater
        · rw [hfirst] at hid
          exact absurd hcontinues.2 hid
        · have hbehind := ih hlater octet.toNat
          omega
      · exact hoffset

theorem cons_cons_of_getElem? {octets : List UInt8} {id length : UInt8}
    (hid : octets[0]? = some id) (hlength : octets[1]? = some length) :
    ∃ rest, octets = id :: length :: rest := by
  match octets with
  | [] => cases hid
  | [_] => cases hlength
  | _ :: _ :: rest =>
      simp only [List.getElem?_cons_zero, List.getElem?_cons_succ, Option.some.injEq] at hid hlength
      rw [hid, hlength]
      exact ⟨rest, rfl⟩

theorem continuation_of_other {fragId : UInt8} {start : ℕ} {octets : List UInt8}
    (hother : octets[0]? ≠ some fragId) (length : ℕ) :
    continuation fragId length (items start octets) = [] := by
  induction start, octets using items_induction with
  | hstop start octets hstop =>
      rw [hstop]
      rfl
  | hitem start id octet rest hoctet _ =>
      have hid : id ≠ fragId := by
        intro heq
        rw [heq] at hother
        exact hother rfl
      rw [items_cons hoctet, continuation, if_neg fun hboth => hid hboth.2]

/-- Fragments are read from their own bytes and the two bytes behind them; a byte behind them
that is not the tag of a fragment is enough. -/
theorem continuation_congr {fragId : UInt8} {start : ℕ} {octets other : List UInt8}
    (hsize : other.length = octets.length) (length : ℕ)
    (hsame : ∀ i < fragmentsSize fragId length (items start octets), other[i]? = octets[i]?)
    (hbehind :
      (∀ i < 2, other[fragmentsSize fragId length (items start octets) + i]? =
        octets[fragmentsSize fragId length (items start octets) + i]?) ∨
      other[fragmentsSize fragId length (items start octets)]? ≠ some fragId) :
    continuation fragId length (items start other) =
      continuation fragId length (items start octets) := by
  induction start, octets using items_induction generalizing length other with
  | hstop start octets hstop =>
      rw [hstop] at hbehind ⊢
      have hnone : fragmentsSize fragId length ([] : List Item) = 0 := rfl
      simp only [hnone, Nat.zero_add] at hbehind
      rcases hbehind with hagree | hother
      · have hid := hagree 0 (by omega)
        have hoctet := hagree 1 (by omega)
        match octets with
        | [] => rw [List.eq_nil_of_length_eq_zero hsize]; rfl
        | [id] =>
            match other with
            | [_] => rfl
        | id :: octet :: rest =>
            rcases cons_cons_of_getElem? hid hoctet with ⟨tail, htail⟩
            rw [htail] at hsize ⊢
            have hrest : rest.length < octet.toNat := by
              by_contra hlong
              rw [items_cons (Nat.not_lt.mp hlong)] at hstop
              cases hstop
            simp only [List.length_cons] at hsize
            rw [items_of_short (by omega)]
      · rw [continuation_of_other hother]
        rfl
  | hitem start id octet rest hoctet ih =>
      have htake : (rest.take octet.toNat).length = octet.toNat := by
        rw [List.length_take, min_eq_left hoctet]
      rw [items_cons hoctet] at hsame hbehind ⊢
      rw [fragmentsSize_cons, htake] at hsame hbehind
      by_cases hcontinues : length = 255 ∧ id = fragId
      · simp only [if_pos hcontinues] at hsame hbehind
        have hid := hsame 0 (by omega)
        have hlength := hsame 1 (by omega)
        rcases cons_cons_of_getElem? hid hlength with ⟨tail, htail⟩
        rw [htail] at hsize hsame hbehind ⊢
        simp only [List.length_cons] at hsize
        have htailLength : octet.toNat ≤ tail.length := by omega
        have hshift : ∀ (l : List UInt8) (i : ℕ),
            (id :: octet :: l)[octet.toNat + 2 + i]? = (l.drop octet.toNat)[i]? := by
          intro l i
          have hindex : octet.toNat + 2 + i = octet.toNat + i + 1 + 1 := by omega
          rw [hindex, List.getElem?_cons_succ, List.getElem?_cons_succ, List.getElem?_drop]
        have hvalue : tail.take octet.toNat = rest.take octet.toNat := by
          apply List.ext_getElem?
          intro i
          by_cases hi : i < octet.toNat
          · have hbyte := hsame (i + 2) (by omega)
            simp only [List.getElem?_cons_succ] at hbyte
            rw [List.getElem?_take_of_lt hi, List.getElem?_take_of_lt hi, hbyte]
          · rw [List.getElem?_eq_none (by rw [List.length_take]; omega),
              List.getElem?_eq_none (by rw [List.length_take]; omega)]
        have htailRest : continuation fragId octet.toNat
              (items (start + 2 + octet.toNat) (tail.drop octet.toNat)) =
            continuation fragId octet.toNat
              (items (start + 2 + octet.toNat) (rest.drop octet.toNat)) := by
          apply ih
          · rw [List.length_drop, List.length_drop]
            omega
          · intro i hi
            rw [← hshift tail, ← hshift rest]
            exact hsame _ (by omega)
          · rcases hbehind with hagree | hother
            · left
              intro i hi
              have hbyte := hagree i hi
              rw [Nat.add_assoc, hshift tail, hshift rest] at hbyte
              exact hbyte
            · right
              rw [hshift tail] at hother
              exact hother
        rw [items_cons htailLength, continuation, continuation, if_pos hcontinues,
          if_pos hcontinues, hvalue, htake, htailRest]
      · simp only [if_neg hcontinues, Nat.zero_add] at hbehind
        rw [continuation, if_neg hcontinues]
        rcases hbehind with hagree | hother
        · rcases cons_cons_of_getElem? (hagree 0 (by omega)) (hagree 1 (by omega)) with
            ⟨tail, htail⟩
          rw [htail] at hsize ⊢
          simp only [List.length_cons] at hsize
          rw [items_cons (by omega), continuation, if_neg hcontinues]
        · exact continuation_of_other hother length

def wholeLength (fragId : UInt8) (item : Item) (following : List Item) : ℕ :=
  item.data.length + (fragmentData fragId item.data.length following).length

theorem wholeLength_add_le {fragId : UInt8} {l before₁ before₂ : List Item}
    {first second : Item} {following₁ following₂ : List Item}
    (hfirst : l = before₁ ++ first :: following₁)
    (hsecond : l = before₂ ++ second :: following₂) (hne : first ≠ second)
    (hid₁ : first.id ≠ fragId) (hid₂ : second.id ≠ fragId) :
    wholeLength fragId first following₁ + wholeLength fragId second following₂ ≤
      (l.map fun item => item.data.length).sum := by
  have hordered : ∀ (before between after : List Item) (x y : Item),
      y.id ≠ fragId →
      wholeLength fragId x (between ++ y :: after) +
          wholeLength fragId y after ≤
        ((before ++ x :: (between ++ y :: after)).map
          fun item => item.data.length).sum := by
    intro before between after x y hy
    have hbetween := fragmentData_length_le fragId x.data.length between
    have hafter := fragmentData_length_le fragId y.data.length after
    have hx : fragmentData fragId x.data.length (between ++ y :: after) =
        fragmentData fragId x.data.length between := by
      rw [fragmentData, continuation_append_cons fragId _ between hy, fragmentData]
    simp only [wholeLength, hx, List.map_append, List.map_cons,
      List.sum_append, List.sum_cons]
    omega
  have hsame := hfirst.symm.trans hsecond
  rcases List.append_eq_append_iff.1 hsame with
    ⟨between, hbefore, htail⟩ | ⟨between, hbefore, htail⟩
  · cases between with
    | nil =>
        rw [List.nil_append, List.cons.injEq] at htail
        exact absurd htail.1 hne
    | cons x between =>
        rw [List.cons_append, List.cons.injEq] at htail
        obtain ⟨rfl, rfl⟩ := htail
        rw [hfirst]
        exact hordered before₁ between following₂ first second hid₂
  · cases between with
    | nil =>
        rw [List.nil_append, List.cons.injEq] at htail
        exact absurd htail.1.symm hne
    | cons x between =>
        rw [List.cons_append, List.cons.injEq] at htail
        obtain ⟨rfl, rfl⟩ := htail
        rw [hsecond, Nat.add_comm]
        exact hordered before₂ between following₁ second first hid₁

end TagLengthValue
