/-
# `CodexOfPower.InventoryPages` — the pages of the inventory

The page asks for the inventory page by page: the request names a page and a page size,
the sender of the answer multiplies the two, and `FillQuickListPage` clamps the offset
and cuts the list.  The product has room in 64 bits, whatever the request.  So over a
list that does not change, the pages are the consecutive pieces of the list, the last
that has something is the first without more, and all after it are empty
(`inventory_pages`).

A page is named by 32 bits.  That is enough for every list: no two rows have the same
key, so a list has at most as many rows as there are form ids.

## What is not said

A list that changes between two requests is not considered: pages of different lists need
not fit together.  What the rows say is in `CodexOfPower.QuickList`.
-/
import CodexOfPower.QuickListCache
import CodexOfPower.Settings

namespace CodexOfPower

open RE Builds Registration

/-! ## The request -/

namespace PrismaUIManager

/-- `is_number_integer`, then `get<std::int64_t>`. -/
def Json.getInt64 : Json → Option Int64
  | .numberUnsigned value => some value.toInt64
  | .numberInteger value => some value
  | _ => none

structure InventoryRequest where
  page : UInt32 := 0
  pageSize : UInt32 := 200

/-- The cast keeps the low half of the number. -/
def requestedPage (v : Int64) : UInt32 := if 0 < v then v.toUInt64.toUInt32 else 0

def requestedPageSize (v : Int64) : UInt32 :=
  (if v < 1 then 1 else if 500 < v then 500 else v).toUInt64.toUInt32

/-- The payload is what `ParseJsonPayload` made of the argument. -/
def parseInventoryRequest : Option Json → InventoryRequest
  | none => {}
  | some payload =>
    { page := (((payload.find "page").bind Json.getInt64).map requestedPage).getD 0
      pageSize :=
        (((payload.find "pageSize").bind Json.getInt64).map requestedPageSize).getD 200 }

/-- The offset that `QueueSendInventory` computes. -/
def InventoryRequest.offset (req : InventoryRequest) : UInt64 :=
  req.page.toUInt64 * req.pageSize.toUInt64

end PrismaUIManager

open PrismaUIManager

/-! ## The answer -/

namespace Listing

variable (formTypes : FormID → FormType) (env : Environment Float32)

def served (listing : Listing) : List ListItem :=
  match listing.page env 0 0 with
  | some _ => listing.cache.allEligible
  | none => (listing.build formTypes env).allEligible

def buildQuickRegisterList (offset limit : Nat) (listing : Listing) : QuickRegisterList :=
  if !env.player then {}
  else
    match listing.page env offset limit with
    | some page => page
    | none => fillQuickListPage (listing.build formTypes env).allEligible offset limit

/-- What `QueueSendInventory` sends. -/
def sendInventory (req : InventoryRequest) (listing : Listing) : QuickRegisterList :=
  listing.buildQuickRegisterList formTypes env req.offset.toNat req.pageSize.toNat

variable {formTypes env} {listing : Listing}

theorem page_cases (env : Environment Float32) (listing : Listing) (offset limit : Nat) :
    (listing.page env offset limit = none ∧ listing.page env 0 0 = none) ∨
      listing.page env offset limit =
          some (fillQuickListPage listing.cache.allEligible offset limit) ∧
        listing.page env 0 0 = some (fillQuickListPage listing.cache.allEligible 0 0) := by
  simp only [page, tryBuildQuickListFromCache]
  split_ifs
  · exact .inl ⟨rfl, rfl⟩
  · exact .inl ⟨rfl, rfl⟩
  · exact .inl ⟨rfl, rfl⟩
  · exact .inr ⟨rfl, rfl⟩

theorem served_of_none (h : listing.page env 0 0 = none) :
    listing.served formTypes env =
      buildQuickListEligibleItems formTypes env (snapshotQuickList listing.state) := by
  unfold served
  rw [h]
  rfl

theorem buildQuickRegisterList_eq (hplayer : env.player = true) (offset limit : Nat) :
    listing.buildQuickRegisterList formTypes env offset limit =
      fillQuickListPage (listing.served formTypes env) offset limit := by
  unfold buildQuickRegisterList served
  rw [hplayer]
  rcases page_cases env listing offset limit with ⟨hpage, hfirst⟩ | ⟨hpage, hfirst⟩
  · rw [hpage, hfirst]
    rfl
  · rw [hpage, hfirst]
    rfl

end Listing

/-! ## What a request asks for -/

namespace PrismaUIManager

def Json.IsInteger (number : Json) (n : Nat) : Prop :=
  (∃ value : UInt64, number = .numberUnsigned value ∧ value.toNat = n) ∨
    ∃ value : Int64, number = .numberInteger value ∧ value.toInt = n

structure Requests (payload : Json) (page pageSize : Nat) : Prop where
  page : ∃ number, payload.find "page" = some number ∧ number.IsInteger page
  pageSize : ∃ number, payload.find "pageSize" = some number ∧ number.IsInteger pageSize

variable {number payload : Json} {n page pageSize : Nat}

theorem Json.IsInteger.getInt64 (h : number.IsInteger n) (hn : n < 2 ^ 63) :
    ∃ v : Int64, number.getInt64 = some v ∧ v.toInt = n := by
  rcases h with ⟨value, rfl, hvalue⟩ | ⟨value, rfl, hvalue⟩
  · refine ⟨value.toInt64, rfl, ?_⟩
    have hsmall : 2 * value.toBitVec.toNat < 2 ^ 64 := by
      have hbits : value.toBitVec.toNat = n := hvalue
      omega
    have hint : value.toInt64.toInt = value.toBitVec.toNat :=
      BitVec.toInt_eq_toNat_of_lt hsmall
    rw [hint]
    exact congrArg Nat.cast hvalue
  · exact ⟨value, rfl, hvalue⟩

theorem toNat_low_half {v : Int64} (h : v.toInt = n) (hn : n < 2 ^ 32) :
    v.toUInt64.toUInt32.toNat = n := by
  have hzero : (0 : Int64).toInt = 0 := by decide
  have hnonneg : 0 ≤ v := by
    rw [Int64.le_iff_toInt_le, hzero, h]
    exact Int.natCast_nonneg n
  rw [UInt64.toNat_toUInt32, Int64.toNat_toUInt64_of_le hnonneg, ← Int64.toNat_toInt, h,
    Int.toNat_natCast]
  exact Nat.mod_eq_of_lt hn

theorem toNat_requestedPage {v : Int64} (h : v.toInt = n) (hn : n < 2 ^ 32) :
    (requestedPage v).toNat = n := by
  have hzero : (0 : Int64).toInt = 0 := by decide
  unfold requestedPage
  split_ifs with hpos
  · exact toNat_low_half h hn
  · rw [Int64.lt_iff_toInt_lt, hzero, h] at hpos
    have hn0 : n = 0 := by omega
    exact hn0.symm

theorem toNat_requestedPageSize {v : Int64} (h : v.toInt = n) (hlow : 1 ≤ n) (hhigh : n ≤ 500) :
    (requestedPageSize v).toNat = n := by
  have hone : (1 : Int64).toInt = 1 := by decide
  have hmax : (500 : Int64).toInt = 500 := by decide
  have hnotlow : ¬ v < 1 := by
    rw [Int64.lt_iff_toInt_lt, hone, h]
    omega
  have hnothigh : ¬ 500 < v := by
    rw [Int64.lt_iff_toInt_lt, hmax, h]
    omega
  unfold requestedPageSize
  rw [if_neg hnotlow, if_neg hnothigh]
  exact toNat_low_half h (by omega)

theorem parseInventoryRequest_of_requests (h : Requests payload page pageSize)
    (hpage : page < 2 ^ 32) (hlow : 1 ≤ pageSize) (hhigh : pageSize ≤ 500) :
    (parseInventoryRequest (some payload)).page.toNat = page ∧
      (parseInventoryRequest (some payload)).pageSize.toNat = pageSize := by
  obtain ⟨pageNumber, hpageFind, hpageInteger⟩ := h.page
  obtain ⟨sizeNumber, hsizeFind, hsizeInteger⟩ := h.pageSize
  obtain ⟨v, hv, hvalue⟩ := hpageInteger.getInt64 (by omega)
  obtain ⟨w, hw, hwvalue⟩ := hsizeInteger.getInt64 (by omega)
  unfold parseInventoryRequest
  dsimp only
  rw [hpageFind, hsizeFind, Option.bind_some, Option.bind_some, hv, hw]
  exact ⟨toNat_requestedPage hvalue hpage, toNat_requestedPageSize hwvalue hlow hhigh⟩

/-- The product of a page and a page size has room in 64 bits. -/
theorem toNat_offset (req : InventoryRequest) :
    req.offset.toNat = req.page.toNat * req.pageSize.toNat := by
  have hpage : req.page.toNat < 2 ^ 32 := req.page.toNat_lt
  have hsize : req.pageSize.toNat < 2 ^ 32 := req.pageSize.toNat_lt
  unfold InventoryRequest.offset
  rw [UInt64.toNat_mul, UInt32.toNat_toUInt64, UInt32.toNat_toUInt64]
  refine Nat.mod_eq_of_lt ?_
  calc req.page.toNat * req.pageSize.toNat < 2 ^ 32 * 2 ^ 32 := Nat.mul_lt_mul'' hpage hsize
    _ = 2 ^ 64 := by norm_num

end PrismaUIManager

/-! ## The pieces of a list -/

section Pieces

variable {α : Type}

/-- Consecutive pieces of one length make up the beginning of a list. -/
theorem flatMap_pieces (list : List α) (size count : Nat) :
    (List.range count).flatMap (fun piece => (list.drop (piece * size)).take size) =
      list.take (count * size) := by
  induction count with
  | zero => simp
  | succ count ih =>
    rw [List.range_succ, List.flatMap_append, ih, List.flatMap_singleton, Nat.succ_mul,
      List.take_add]

variable {allEligible : List ListItem} {offset limit : Nat}

/-- A page is the piece at its offset, whatever the offset. -/
theorem fillQuickListPage_items (allEligible : List ListItem) (offset limit : Nat) :
    (fillQuickListPage allEligible offset limit).items = (allEligible.drop offset).take limit := by
  unfold fillQuickListPage
  dsimp only
  rcases Nat.le_total offset allEligible.length with hoffset | hoffset
  · rw [Nat.min_eq_left hoffset, ← List.length_drop]
    exact List.take_eq_take_min.symm
  · rw [Nat.min_eq_right hoffset, Nat.sub_self, Nat.min_zero, List.take_zero,
      List.drop_eq_nil_of_le hoffset, List.take_nil]

theorem fillQuickListPage_hasMore (allEligible : List ListItem) (offset limit : Nat) :
    (fillQuickListPage allEligible offset limit).hasMore = true ↔
      offset + limit < allEligible.length := by
  unfold fillQuickListPage
  dsimp only
  rw [decide_eq_true_iff]
  omega

end Pieces

/-! ## The pages -/

section Pages

/-- The answers to the pages of a list: all have its length for the total, those up to
the first without more make it up, and the later ones are empty. -/
structure Paginates (list : List ListItem) (answer : Nat → QuickRegisterList) : Prop where
  total : ∀ page < 2 ^ 32, (answer page).total = list.length
  pages : ∃ last < 2 ^ 32, (∀ page < last, (answer page).hasMore = true) ∧
    (answer last).hasMore = false ∧
    (List.range (last + 1)).flatMap (fun page => (answer page).items) = list ∧
    ∀ page, last < page → page < 2 ^ 32 →
      (answer page).items = [] ∧ (answer page).hasMore = false

variable {list : List ListItem} {answer : Nat → QuickRegisterList} {size : Nat}

def lastPage (list : List ListItem) (size : Nat) : Nat := (list.length - 1) / size

theorem lt_lastPage_iff (list : List ListItem) (hsize : 0 < size) {page : Nat} :
    page < lastPage list size ↔ page * size + size < list.length := by
  unfold lastPage
  rw [Nat.lt_iff_add_one_le, Nat.le_div_iff_mul_le hsize, Nat.add_mul, Nat.one_mul]
  omega

theorem paginates_of_eq (hsize : 0 < size) (hlength : list.length ≤ 2 ^ 32)
    (h : ∀ page < 2 ^ 32, answer page = fillQuickListPage list (page * size) size) :
    Paginates list answer := by
  have hlast : lastPage list size < 2 ^ 32 := by
    have hle : lastPage list size ≤ list.length - 1 := Nat.div_le_self _ _
    omega
  have hmore : ∀ page < 2 ^ 32, (answer page).hasMore = true ↔ page < lastPage list size := by
    intro page hpage
    rw [h page hpage, fillQuickListPage_hasMore, lt_lastPage_iff list hsize]
  have hnone : ∀ page < 2 ^ 32, lastPage list size ≤ page → (answer page).hasMore = false := by
    intro page hpage hle
    exact Bool.eq_false_iff.mpr fun htrue => absurd ((hmore page hpage).mp htrue) (not_lt.mpr hle)
  -- the last page reaches the end of the list
  have hend : list.length ≤ (lastPage list size + 1) * size := by
    have hnot := mt (lt_lastPage_iff list hsize).mpr (lt_irrefl (lastPage list size))
    rw [Nat.succ_mul]
    exact not_lt.mp hnot
  refine ⟨fun page hpage => by rw [h page hpage]; rfl, lastPage list size, hlast, ?_,
    hnone _ hlast le_rfl, ?_, ?_⟩
  · intro page hpage
    exact (hmore page (hpage.trans hlast)).mpr hpage
  · have hpieces : ∀ page ∈ List.range (lastPage list size + 1),
        (answer page).items = (list.drop (page * size)).take size := by
      intro page hpage
      have hle : page < lastPage list size + 1 := List.mem_range.mp hpage
      rw [h page (by omega), fillQuickListPage_items]
    rw [List.flatMap_congr hpieces, flatMap_pieces]
    exact List.take_of_length_le hend
  · intro page hlater hpage
    have hbeyond : list.length ≤ page * size :=
      hend.trans (Nat.mul_le_mul_right size hlater)
    refine ⟨?_, hnone page hpage hlater.le⟩
    rw [h page hpage, fillQuickListPage_items, List.drop_eq_nil_of_le hbeyond, List.take_nil]

/-- Every list of the game, page by page: each answer is given by the plugin of its moment,
from its cache or not, and the list it answers from is the same. -/
theorem inventory_pages {formTypes : FormID → FormType} {builtIn : Environment Float32}
    {quickListState : QuickListSnapshot} {env : Nat → Environment Float32}
    {listing : Nat → Listing} {payload : Nat → Json} {pageSize : Nat} (hlow : 1 ≤ pageSize)
    (hhigh : pageSize ≤ 500) (hplayer : ∀ page, (env page).player = true)
    (hserved : ∀ page, (listing page).served formTypes (env page) =
      buildQuickListEligibleItems formTypes builtIn quickListState)
    (hrequests : ∀ page < 2 ^ 32, Requests (payload page) page pageSize) :
    Paginates (buildQuickListEligibleItems formTypes builtIn quickListState) fun page =>
      (listing page).sendInventory formTypes (env page)
        (parseInventoryRequest (some (payload page))) := by
  refine paginates_of_eq hlow length_buildQuickListEligibleItems_le fun page hpage => ?_
  obtain ⟨hpageParsed, hsizeParsed⟩ :=
    parseInventoryRequest_of_requests (hrequests page hpage) hpage hlow hhigh
  unfold Listing.sendInventory
  rw [Listing.buildQuickRegisterList_eq (hplayer page), hserved, toNat_offset, hpageParsed,
    hsizeParsed]

/-- The request that the page sends for a page of the inventory. -/
def inventoryPayload (page pageSize : UInt64) : Json :=
  .object [(utf8 "page", .numberUnsigned page), (utf8 "pageSize", .numberUnsigned pageSize)]

/-- Two swords of different kinds, one on a page. -/
theorem inventory_pages_swords :
    Paginates (buildQuickListEligibleItems (fun _ => .Weapon)
        (stall (utf8 "Sword") [{ object := 4 }, { object := 5 }])
        (snapshotQuickList (F := Float32) {}))
      fun page =>
        ({ state := {}, clock := 0 } : Listing).sendInventory (fun _ => .Weapon)
          (stall (utf8 "Sword") [{ object := 4 }, { object := 5 }])
          (parseInventoryRequest (some (inventoryPayload (.ofNat page) 1))) :=
  have hrequests : ∀ page < 2 ^ 32, Requests (inventoryPayload (.ofNat page) 1) page 1 :=
    fun page hpage =>
      { page := ⟨_, rfl, .inl ⟨_, rfl, UInt64.toNat_ofNat_of_lt' (hpage.trans (by decide))⟩⟩
        pageSize := ⟨_, rfl, .inl ⟨_, rfl, rfl⟩⟩ }
  inventory_pages le_rfl (by decide) (fun _ => rfl) (fun _ => Listing.served_of_none rfl)
    hrequests

end Pages

end CodexOfPower
