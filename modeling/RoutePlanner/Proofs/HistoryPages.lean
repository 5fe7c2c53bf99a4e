import RoutePlanner.History.Store
import Mathlib.Data.List.Perm.Subperm
import Mathlib.Data.List.Nodup

/-!
# Reading a history page by page

A client reads a user's routes by asking for the first page and then for the page at each
cursor it is given, until a page comes without one (`RouteHistory.pages`). A cursor is the
creation time of the last route its page shows and lets through only routes strictly older, so
each page starts from fewer routes than the one before and the reading ends.

Together the pages show routes of the user only, each at most once, newest first, and every
page but the last is full. They show every creation time among the user's routes, though not
every route: when two routes share a creation time and one of them ends a page, the cursor
shuts the other out for good (`pages_skip_route_sharing_cursor`). So the pages show each of the
user's routes exactly once when no two of them were saved at the same instant.

Main statement: `pages_show_each_route_once`.
-/

namespace RoutePlanner

namespace Instant

/-- Instants compare as pairs, seconds first. -/
theorem lt_iff_lex (a b : Instant) :
    a.lt b = true ↔ a.seconds < b.seconds ∨ a.seconds = b.seconds ∧ a.nanos < b.nanos := by
  simp [lt]

theorem lt_self_eq_false (a : Instant) : a.lt a = false := by
  simp [lt]

protected theorem lt_trans {a b c : Instant} (hab : a.lt b = true) (hbc : b.lt c = true) :
    a.lt c = true := by
  rw [lt_iff_lex] at *
  omega

protected theorem lt_asymm {a b : Instant} (h : a.lt b = true) : b.lt a = false := by
  rw [← Bool.not_eq_true, lt_iff_lex]
  rw [lt_iff_lex] at h
  omega

theorem not_lt_trans {a b c : Instant} (hab : a.lt b = false) (hbc : b.lt c = false) :
    a.lt c = false := by
  rw [← Bool.not_eq_true, lt_iff_lex] at *
  omega

/-- Two instants neither of which is earlier than the other are the same. -/
theorem eq_of_not_lt_of_not_lt {a b : Instant} (hab : a.lt b = false) (hba : b.lt a = false) :
    a = b := by
  rw [← Bool.not_eq_true, lt_iff_lex] at hab hba
  obtain ⟨s, n⟩ := a
  obtain ⟨s', n'⟩ := b
  simp only [mk.injEq] at *
  omega

end Instant

namespace RouteHistory

variable (h : RouteHistory) (user : String) (limit : Option Int) (cursor : Option Instant)

/-! ## The routes older than a cursor -/

/-- Whether `olderThan` keeps a record: one of the user's, strictly older than the cursor. -/
def keeps (user : String) (cursor : Option Instant) (r : RouteRecord) : Bool :=
  r.userId == user && (cursor.map fun c => r.createdAt.lt c).getD true

theorem newerFirst_trans (a b c : RouteRecord) (hab : newerFirst a b = true)
    (hbc : newerFirst b c = true) : newerFirst a c = true := by
  simp only [newerFirst, Bool.not_eq_true'] at *
  exact Instant.not_lt_trans hab hbc

theorem newerFirst_total (a b : RouteRecord) : (newerFirst a b || newerFirst b a) = true := by
  cases hab : a.createdAt.lt b.createdAt
  · simp [newerFirst, hab]
  · simp [newerFirst, Instant.lt_asymm hab]

theorem olderThan_perm :
    (h.olderThan user cursor).Perm (h.records.filter (keeps user cursor)) :=
  List.mergeSort_perm _ _

theorem olderThan_sorted : (h.olderThan user cursor).Pairwise fun a b => newerFirst a b = true :=
  List.pairwise_mergeSort newerFirst_trans newerFirst_total _

variable {h user cursor} in
theorem mem_olderThan {r : RouteRecord} :
    r ∈ h.olderThan user cursor ↔ r ∈ h.records ∧ keeps user cursor r = true := by
  simp [olderThan, keeps]

variable {h user} in
theorem mem_olderThan_none {r : RouteRecord} :
    r ∈ h.olderThan user none ↔ r ∈ h.records ∧ r.userId = user := by
  simp [mem_olderThan, keeps]

variable {h user} in
theorem mem_olderThan_some {r : RouteRecord} {c : Instant} :
    r ∈ h.olderThan user (some c) ↔
      r ∈ h.records ∧ r.userId = user ∧ r.createdAt.lt c = true := by
  simp [mem_olderThan, keeps]

variable {h user cursor} in
theorem userId_of_mem_olderThan {r : RouteRecord} (hr : r ∈ h.olderThan user cursor) :
    r.userId = user := by
  cases cursor with
  | none => exact (mem_olderThan_none.1 hr).2
  | some c => exact (mem_olderThan_some.1 hr).2.1

/-- Without a cursor the routes are all of the user's. -/
theorem olderThan_none_perm :
    (h.olderThan user none).Perm (h.records.filter (·.userId == user)) := by
  have hkeeps : keeps user none = fun r => r.userId == user := by
    funext r
    simp [keeps]
  exact hkeeps ▸ olderThan_perm h user none

variable {h user cursor} in
/-- The routes older than one of them are those it precedes in time. -/
theorem olderThan_cursor_perm {ℓ : RouteRecord} (hℓ : ℓ ∈ h.olderThan user cursor) :
    (h.olderThan user (some ℓ.createdAt)).Perm
      ((h.olderThan user cursor).filter fun r => r.createdAt.lt ℓ.createdAt) := by
  have hfilter : h.records.filter (keeps user (some ℓ.createdAt)) =
      (h.records.filter (keeps user cursor)).filter fun r => r.createdAt.lt ℓ.createdAt := by
    rw [List.filter_filter]
    refine List.filter_congr fun r _ => ?_
    cases cursor with
    | none => simp [keeps, Bool.and_comm]
    | some c =>
      -- a route older than `ℓ` is older than the cursor `ℓ` was older than
      have hℓc := (mem_olderThan_some.1 hℓ).2.2
      cases hr : r.createdAt.lt ℓ.createdAt
      · simp [keeps, hr]
      · simp [keeps, hr, Instant.lt_trans hr hℓc]
  exact (olderThan_perm h user _).trans
    (hfilter ▸ ((olderThan_perm h user cursor).filter _).symm)

variable {h user cursor} in
theorem olderThan_next_length_lt {ℓ : RouteRecord} (hℓ : ℓ ∈ h.olderThan user cursor) :
    (h.olderThan user (some ℓ.createdAt)).length < (h.olderThan user cursor).length := by
  rw [(olderThan_cursor_perm hℓ).length_eq]
  exact List.length_filter_lt_length_iff_exists.2
    ⟨ℓ, hℓ, by simp [Instant.lt_self_eq_false]⟩

/-! ## One page -/

theorem clampLimit_pos : 0 < clampLimit limit := by
  cases limit with
  | none => decide
  | some l =>
    rw [clampLimit, Int.lt_toNat]
    omega

/-- A page's cursor is the creation time of its last route, given when more routes remain. -/
theorem list_nextCursor_eq_some {c : Instant} (hc : (h.list user limit cursor).nextCursor = some c) :
    ∃ ℓ, ((h.olderThan user cursor).take (clampLimit limit)).getLast? = some ℓ ∧
      ℓ.createdAt = c ∧ clampLimit limit < (h.olderThan user cursor).length := by
  simp only [list, paginate] at hc
  split at hc
  · obtain ⟨ℓ, hℓ, rfl⟩ := Option.map_eq_some_iff.1 hc
    exact ⟨ℓ, hℓ, rfl, by omega⟩
  · cases hc

/-- A page without a cursor shows every route left. -/
theorem list_nextCursor_eq_none (hc : (h.list user limit cursor).nextCursor = none) :
    (h.olderThan user cursor).length ≤ clampLimit limit := by
  simp only [list, paginate] at hc
  split at hc
  · rename_i hmore
    have hpos := clampLimit_pos limit
    have hshown : (h.olderThan user cursor).take (clampLimit limit) ≠ [] := by
      simp only [ne_eq, List.take_eq_nil_iff, not_or]
      exact ⟨by omega, List.ne_nil_of_length_pos (by omega)⟩
    simp [List.getLast?_eq_none_iff, hshown] at hc
  · omega

variable {h user limit cursor} in
theorem list_next_length_lt {c : Instant} (hc : (h.list user limit cursor).nextCursor = some c) :
    (h.olderThan user (some c)).length < (h.olderThan user cursor).length := by
  obtain ⟨ℓ, hlast, rfl, -⟩ := list_nextCursor_eq_some h user limit cursor hc
  exact olderThan_next_length_lt (List.mem_of_mem_take (List.mem_of_getLast? hlast))

/-! ## Page after page -/

/-- **The pages from a cursor**: the page at the cursor and, when it gives a cursor, the pages
from there. -/
def pagesFrom (h : RouteHistory) (user : String) (limit : Option Int)
    (cursor : Option Instant) : List RoutePage :=
  match _hc : (h.list user limit cursor).nextCursor with
  | none => [h.list user limit cursor]
  | some c => h.list user limit cursor :: h.pagesFrom user limit (some c)
termination_by (h.olderThan user cursor).length
decreasing_by exact list_next_length_lt _hc

/-- **A user's history, page by page**, from the newest route. -/
def pages (h : RouteHistory) (user : String) (limit : Option Int) : List RoutePage :=
  h.pagesFrom user limit none

theorem pagesFrom_of_none (hc : (h.list user limit cursor).nextCursor = none) :
    h.pagesFrom user limit cursor = [h.list user limit cursor] := by
  rw [pagesFrom]
  split <;> simp_all

theorem pagesFrom_of_some {c : Instant} (hc : (h.list user limit cursor).nextCursor = some c) :
    h.pagesFrom user limit cursor =
      h.list user limit cursor :: h.pagesFrom user limit (some c) := by
  rw [pagesFrom]
  split <;> simp_all

theorem pagesFrom_ne_nil : h.pagesFrom user limit cursor ≠ [] := by
  cases hc : (h.list user limit cursor).nextCursor with
  | none => simp [pagesFrom_of_none h user limit cursor hc]
  | some c => simp [pagesFrom_of_some h user limit cursor hc]

/-! ## What the pages show -/

/-- `shown` lists records of `older`, each at most once and newest first, and shows every
creation time among them. -/
structure Covers (shown older : List RouteRecord) : Prop where
  subperm : shown.Subperm older
  sorted : shown.Pairwise fun a b => newerFirst a b = true
  times : ∀ r ∈ older, ∃ s ∈ shown, s.createdAt = r.createdAt

theorem Covers.refl {older : List RouteRecord}
    (hsorted : older.Pairwise fun a b => newerFirst a b = true) : Covers older older :=
  ⟨List.Subperm.refl _, hsorted, fun r hr => ⟨r, hr, rfl⟩⟩

/-- In a newest-first list no record is older than the last. -/
theorem not_lt_getLast {l : List RouteRecord} (hl : l.Pairwise fun a b => newerFirst a b = true)
    {ℓ : RouteRecord} (hℓ : l.getLast? = some ℓ) :
    ∀ x ∈ l, x.createdAt.lt ℓ.createdAt = false := by
  obtain ⟨init, rfl⟩ := List.getLast?_eq_some_iff.1 hℓ
  intro x hx
  rcases List.mem_append.1 hx with hx | hx
  · simpa [newerFirst] using (List.pairwise_append.1 hl).2.2 x hx ℓ (List.mem_singleton_self ℓ)
  · rw [List.mem_singleton.1 hx]
    exact Instant.lt_self_eq_false _

variable {h user limit cursor} in
/-- **One step of the reading.** What the pages from a page's cursor show covers the routes
older than that cursor; with the page in front, it covers the routes the page started from. -/
theorem Covers.page {c : Instant} (hc : (h.list user limit cursor).nextCursor = some c)
    {shown : List RouteRecord} (hnext : Covers shown (h.olderThan user (some c))) :
    Covers ((h.olderThan user cursor).take (clampLimit limit) ++ shown)
      (h.olderThan user cursor) := by
  obtain ⟨ℓ, hlast, rfl, -⟩ := list_nextCursor_eq_some h user limit cursor hc
  set older := h.olderThan user cursor
  set page := older.take (clampLimit limit)
  have hsplit : page ++ older.drop (clampLimit limit) = older := List.take_append_drop _ _
  have hsorted : older.Pairwise fun a b => newerFirst a b = true := olderThan_sorted h user cursor
  have hℓ : ℓ ∈ page := List.mem_of_getLast? hlast
  have hpage : ∀ x ∈ page, x.createdAt.lt ℓ.createdAt = false :=
    not_lt_getLast (hsorted.sublist (List.take_sublist _ _)) hlast
  -- the rest of the pages starts after the page, so the page and the rest are apart in time
  have hrest : ∀ y ∈ shown, y.createdAt.lt ℓ.createdAt = true := fun y hy =>
    (mem_olderThan_some.1 (hnext.subperm.subset hy)).2.2
  refine ⟨?subperm, ?sorted, ?times⟩
  case subperm =>
    have hdrop : older.filter (fun r => r.createdAt.lt ℓ.createdAt) =
        (older.drop (clampLimit limit)).filter fun r => r.createdAt.lt ℓ.createdAt := by
      conv_lhs => rw [← hsplit]
      rw [List.filter_append, List.filter_eq_nil_iff.2 (by simpa using hpage), List.nil_append]
    -- the next pages draw on the routes after the page that are older than its last
    have hshown : (page ++ shown).Subperm (page ++ h.olderThan user (some ℓ.createdAt)) :=
      (List.subperm_append_left page).2 hnext.subperm
    have hnext' : (page ++ h.olderThan user (some ℓ.createdAt)).Subperm
        (page ++ (older.drop (clampLimit limit)).filter fun r => r.createdAt.lt ℓ.createdAt) := by
      rw [← hdrop]
      exact ((olderThan_cursor_perm (List.mem_of_mem_take hℓ)).append_left page).subperm
    have hafter : (page ++ (older.drop (clampLimit limit)).filter
        fun r => r.createdAt.lt ℓ.createdAt).Subperm older := by
      conv_rhs => rw [← hsplit]
      exact (List.filter_sublist.append_left page).subperm
    exact hshown.trans (hnext'.trans hafter)
  case sorted =>
    refine List.pairwise_append.2 ⟨hsorted.sublist (List.take_sublist _ _), hnext.sorted, ?_⟩
    intro x hx y hy
    cases hxy : x.createdAt.lt y.createdAt
    · simp [newerFirst, hxy]
    · exact absurd (Instant.lt_trans hxy (hrest y hy)) (by simp [hpage x hx])
  case times =>
    intro r hr
    cases hrℓ : r.createdAt.lt ℓ.createdAt
    · -- not older than the cursor: on the page, or as old as its last route
      rw [← hsplit] at hr hsorted
      rcases List.mem_append.1 hr with hr' | hr'
      · exact ⟨r, List.mem_append_left _ hr', rfl⟩
      · have hℓr : ℓ.createdAt.lt r.createdAt = false := by
          simpa [newerFirst] using (List.pairwise_append.1 hsorted).2.2 ℓ hℓ r hr'
        exact ⟨ℓ, List.mem_append_left _ hℓ, Instant.eq_of_not_lt_of_not_lt hℓr hrℓ⟩
    · have hr' : r ∈ h.olderThan user (some ℓ.createdAt) :=
        mem_olderThan_some.2 ⟨(mem_olderThan.1 hr).1, userId_of_mem_olderThan hr, hrℓ⟩
      obtain ⟨s, hs, hsr⟩ := hnext.times r hr'
      exact ⟨s, List.mem_append_right _ hs, hsr⟩

/-- **The pages from a cursor**, by the induction of the reading: they show the routes of some
records that cover those older than the cursor, and every page but the last is full. -/
theorem pagesFrom_covers :
    ∃ shown, Covers shown (h.olderThan user cursor) ∧
      (h.pagesFrom user limit cursor).flatMap RoutePage.routes =
        shown.map RouteRecord.summary ∧
      ∀ p ∈ (h.pagesFrom user limit cursor).dropLast, p.routes.length = clampLimit limit := by
  induction cursor using pagesFrom.induct h user limit with
  | case1 cursor hc =>
    -- the last page shows every route left
    refine ⟨h.olderThan user cursor, Covers.refl (olderThan_sorted h user cursor), ?_, ?_⟩
    · rw [pagesFrom_of_none h user limit cursor hc]
      simp [list_routes, List.take_of_length_le (list_nextCursor_eq_none h user limit cursor hc)]
    · simp [pagesFrom_of_none h user limit cursor hc]
  | case2 cursor c hc ih =>
    obtain ⟨shown, hcovers, hroutes, hfull⟩ := ih
    obtain ⟨-, -, -, hmore⟩ := list_nextCursor_eq_some h user limit cursor hc
    refine ⟨(h.olderThan user cursor).take (clampLimit limit) ++ shown, hcovers.page hc, ?_, ?_⟩
    · rw [pagesFrom_of_some h user limit cursor hc]
      simp [list_routes, hroutes]
    · rw [pagesFrom_of_some h user limit cursor hc,
        List.dropLast_cons_of_ne_nil (pagesFrom_ne_nil h user limit _)]
      rintro p (_ | ⟨_, hp⟩)
      · simp [list_routes]
        omega
      · exact hfull p hp

/-- **Reading a user's history page by page** shows routes of the user only, each at most once
and newest first, with every page but the last full. Every creation time among the user's routes
is shown, and when no two of them share one, every route of the user is shown exactly once. -/
theorem pages_show_each_route_once (h : RouteHistory) (user : String) (limit : Option Int) :
    (∃ shown : List RouteRecord, shown.Subperm (h.records.filter (·.userId == user)) ∧
        (h.pages user limit).flatMap RoutePage.routes = shown.map RouteRecord.summary) ∧
      ((h.pages user limit).flatMap RoutePage.routes).Pairwise
        (fun a b => b.createdAt.le a.createdAt = true) ∧
      (∀ p ∈ (h.pages user limit).dropLast, p.routes.length = clampLimit limit) ∧
      (∀ r ∈ h.records, r.userId = user →
        ∃ s ∈ (h.pages user limit).flatMap RoutePage.routes, s.createdAt = r.createdAt) ∧
      (((h.records.filter (·.userId == user)).map (·.createdAt)).Nodup →
        ((h.pages user limit).flatMap RoutePage.routes).Perm
          ((h.records.filter (·.userId == user)).map RouteRecord.summary)) := by
  obtain ⟨shown, hcovers, hroutes, hfull⟩ := pagesFrom_covers h user limit none
  have hall := olderThan_none_perm h user
  have hsub : shown.Subperm (h.records.filter (·.userId == user)) :=
    hcovers.subperm.trans hall.subperm
  -- every route of the user is older than no cursor
  have htimes : ∀ r ∈ h.records, r.userId = user → ∃ s ∈ shown, s.createdAt = r.createdAt :=
    fun r hr hu => hcovers.times r (mem_olderThan_none.2 ⟨hr, hu⟩)
  refine ⟨⟨shown, hsub, hroutes⟩, ?_, hfull, ?_, ?_⟩
  · rw [pages, hroutes, List.pairwise_map]
    exact hcovers.sorted
  · intro r hr hu
    obtain ⟨s, hs, hsr⟩ := htimes r hr hu
    refine ⟨s.summary, ?_, hsr⟩
    rw [pages, hroutes]
    exact List.mem_map_of_mem hs
  · intro hdistinct
    rw [pages, hroutes]
    refine List.Perm.map _ (hsub.antisymm (List.Nodup.subperm (hdistinct.of_map _) ?_))
    -- a shown route with the same creation time is the route itself
    intro r hr
    have hr' := List.mem_filter.1 hr
    obtain ⟨s, hs, hsr⟩ := htimes r hr'.1 (by simpa using hr'.2)
    have hs' := hsub.subset hs
    rwa [← (List.inj_on_of_nodup_map hdistinct hs' hr hsr)]

/-- Two routes of user `u` saved at the same instant. -/
def tiedRoutes : RouteHistory :=
  ⟨[⟨⟨1⟩, "u", ⟨0, 0⟩, .optimizer, ⟨"o", none, 0.0, 0.0⟩, [], 0, 0, "", none,
      ⟨none, false, none, none, none⟩, ⟨0, 0⟩⟩,
    ⟨⟨2⟩, "u", ⟨0, 0⟩, .optimizer, ⟨"o", none, 0.0, 0.0⟩, [], 0, 0, "", none,
      ⟨none, false, none, none, none⟩, ⟨0, 0⟩⟩]⟩

/-- **Routes saved at one instant can be skipped.** Read one route per page, the two routes of
`tiedRoutes` give a first page with one route, whose cursor shuts the other out, and an empty
last page: the pages do not show every route of the user. -/
theorem pages_skip_route_sharing_cursor :
    tiedRoutes.records.map (·.userId) = ["u", "u"] ∧
      (tiedRoutes.pages "u" (some 1)).map (·.routes.length) = [1, 0] ∧
      ¬ ((tiedRoutes.pages "u" (some 1)).flatMap RoutePage.routes).Perm
          ((tiedRoutes.records.filter (·.userId == "u")).map RouteRecord.summary) := by
  have hone : clampLimit (some 1) = 1 := rfl
  have hfirst : tiedRoutes.olderThan "u" none = tiedRoutes.records :=
    List.mergeSort_of_pairwise (by decide)
  have hrest : tiedRoutes.olderThan "u" (some ⟨0, 0⟩) = [] := by
    simp [olderThan, tiedRoutes, Instant.lt_self_eq_false]
  have hpage : (tiedRoutes.list "u" (some 1) none).nextCursor = some ⟨0, 0⟩ := by
    rw [list, hfirst, hone]
    rfl
  have hlast : (tiedRoutes.list "u" (some 1) (some ⟨0, 0⟩)).nextCursor = none := by
    rw [list, hrest]
    rfl
  have hpages : tiedRoutes.pages "u" (some 1) =
      [tiedRoutes.list "u" (some 1) none, tiedRoutes.list "u" (some 1) (some ⟨0, 0⟩)] := by
    rw [pages, pagesFrom_of_some _ _ _ _ hpage, pagesFrom_of_none _ _ _ _ hlast]
  rw [hpages]
  simp only [List.map_cons, List.map_nil, List.flatMap_cons, List.flatMap_nil, list_routes,
    hfirst, hrest, hone]
  refine ⟨rfl, rfl, fun hperm => ?_⟩
  -- one route shown of the two
  exact absurd hperm.length_eq (by decide)

end RouteHistory

end RoutePlanner
