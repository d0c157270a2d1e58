import Mathlib.Data.List.DropRight

universe u

/-! A feed that replays its newest items to a reader that knows the newest ones it has shown -/

namespace Replay

variable {α : Type u} {n : Nat} {a b : α} {xs ys zs : List α}

open List

theorem rtake_of_length_le (h : xs.length ≤ n) : xs.rtake n = xs := by
  rw [rtake, Nat.sub_eq_zero_of_le h, drop_zero]

theorem rtake_of_length_eq_succ (h : xs.length = n + 1) : xs.rtake n = xs.tail := by
  rw [rtake, h, Nat.add_sub_cancel_left, drop_one]

theorem rtake_append_of_length_eq (h : ys.length = n) : (xs ++ ys).rtake n = ys := by
  rw [rtake, length_append, h, Nat.add_sub_cancel, drop_left]

theorem length_rtake_le (n : Nat) (xs : List α) : (xs.rtake n).length ≤ n := by
  rw [rtake, length_drop]
  omega

theorem getLast?_rtake (hn : 0 < n) : (xs.rtake n).getLast? = xs.getLast? := by
  rw [rtake, getLast?_drop]
  cases xs with
  | nil => exact ite_self _
  | cons x xs => exact if_neg (Nat.not_le.mpr (Nat.sub_lt (Nat.succ_pos _) hn))

theorem rtake_suffix (n : Nat) (xs : List α) : xs.rtake n <:+ xs := drop_suffix _ _

theorem suffix_rtake (h : zs <:+ xs) (hlength : zs.length ≤ n) : zs <:+ xs.rtake n := by
  refine suffix_of_suffix_length_le h (drop_suffix _ _) ?_
  rw [rtake, length_drop]
  have hle := h.length_le
  omega

theorem not_sublist_swap (hnodup : xs.Nodup) (h : [a, b] <+ xs) : ¬ [b, a] <+ xs := by
  induction xs with
  | nil => cases h
  | cons x xs ih =>
    rw [nodup_cons] at hnodup
    intro hswap
    cases h with
    | cons _ h =>
      cases hswap with
      | cons _ hswap => exact ih hnodup.2 h hswap
      | cons_cons => exact hnodup.1 (h.subset (mem_cons_of_mem _ mem_cons_self))
    | cons_cons _ h =>
      cases hswap with
      | cons _ hswap => exact hnodup.1 (hswap.subset (mem_cons_of_mem _ mem_cons_self))
      | cons_cons => exact hnodup.1 (h.subset mem_cons_self)

/-- What has been shown in the order of `ys` can be followed by an item that is not late. -/
theorem concat_sublist (h : xs <+ ys) (ha : a ∈ ys) (hnew : a ∉ xs)
    (hlate : ∀ c ∈ xs, ¬ [a, c] <+ ys) : xs ++ [a] <+ ys := by
  obtain ⟨before, after, rfl⟩ := append_of_mem ha
  have hbefore : xs <+ before := by
    refine Sublist.of_sublist_append_left (fun c hc hafter => ?_) h
    cases mem_cons.mp hafter with
    | inl heq => exact hnew (heq ▸ hc)
    | inr hmem =>
      refine hlate c hc (sublist_append_of_sublist_right ?_)
      exact (singleton_sublist.mpr hmem).cons_cons a
  exact hbefore.append (singleton_sublist.mpr mem_cons_self)

/-- What is among the newest items of `ys` is among the newest ones shown. -/
theorem mem_rtake_of_sublist (hnodup : ys.Nodup) (h : xs <+ ys) (hsuffix : zs <:+ ys)
    (hlength : zs.length ≤ n) (hshown : a ∈ xs) (ha : a ∈ zs) : a ∈ xs.rtake n := by
  obtain ⟨before, after, rfl⟩ := append_of_mem hshown
  obtain ⟨first, last, rfl, hfirst, hlast⟩ :=
    cons_sublist_iff.mp ((sublist_append_right before (a :: after)).trans h)
  have hnot : a ∉ last := fun hmem => (nodup_append.mp hnodup).2.2 a hfirst a hmem rfl
  have hle : last <:+ zs := by
    cases suffix_or_suffix_of_suffix (suffix_append first last) hsuffix with
    | inl hle => exact hle
    | inr hge => exact absurd (hge.subset ha) hnot
  have hlt : last.length < zs.length := by
    refine Nat.lt_of_le_of_ne hle.length_le fun heq => hnot ?_
    rw [hle.eq_of_length heq]
    exact ha
  refine (suffix_rtake (suffix_append before (a :: after)) ?_).subset mem_cons_self
  exact (Nat.succ_le_succ hlast.length_le).trans (Nat.succ_le_of_lt hlt |>.trans hlength)

theorem not_mem_rtake_of_not_mem {shown : List α} (h : a ∉ shown) : a ∉ shown.rtake n :=
  fun hmem => h ((rtake_suffix n shown).subset hmem)

/-- In `past` is what the reader can have shown and what is replayed, from `window`; the live
items are some of the window that come once more and some that were published since. -/
structure Alignment (n : Nat) (published shown replay live : List α) where
  past : List α
  future : List α
  window : List α
  overlap : List α
  fresh : List α
  published_eq : published = past ++ future
  live_eq : live = overlap ++ fresh
  shown_sublist : shown <+ past
  fresh_sublist : fresh <+ future
  window_suffix : window <:+ past
  window_length : window.length ≤ n
  replay_suffix : replay <:+ window
  overlap_subset : overlap ⊆ window
  reached : ∀ a ∈ window, a ∈ shown ∨ a ∈ replay
  on_time : ∀ a ∈ replay, ∀ c ∈ shown, [a, c] <+ past → a ∈ shown

def Ordered (n : Nat) (published shown replay live : List α) : Prop :=
  Nonempty (Alignment n published shown replay live)

namespace Ordered

variable {published shown replay live live' : List α}

theorem past_nodup (hnodup : published.Nodup) (h : Alignment n published shown replay live) :
    h.past.Nodup := (nodup_append.mp (h.published_eq ▸ hnodup)).1

theorem start (hshown : shown <+ published) (hwindow : replay <:+ published)
    (hlength : replay.length ≤ n) (hlive : live ⊆ replay)
    (hlate : ∀ a ∈ replay, ∀ c ∈ shown, [a, c] <+ published → a ∈ shown) :
    Ordered n published shown replay live := ⟨{
  past := published
  future := []
  window := replay
  overlap := live
  fresh := []
  published_eq := (append_nil _).symm
  live_eq := (append_nil _).symm
  shown_sublist := hshown
  fresh_sublist := Sublist.refl _
  window_suffix := hwindow
  window_length := hlength
  replay_suffix := suffix_refl _
  overlap_subset := hlive
  reached := fun _ ha => .inr ha
  on_time := hlate }⟩

theorem shown_sublist (h : Ordered n published shown replay live) : shown <+ published := by
  obtain ⟨h⟩ := h
  rw [h.published_eq]
  exact sublist_append_of_sublist_left h.shown_sublist

theorem publish (h : Ordered n published shown replay live) (a : α) :
    Ordered n (published ++ [a]) shown replay (live ++ [a]) := by
  obtain ⟨h⟩ := h
  exact ⟨{ h with
    future := h.future ++ [a]
    fresh := h.fresh ++ [a]
    published_eq := (congrArg (· ++ [a]) h.published_eq).trans (append_assoc _ _ _)
    live_eq := (congrArg (· ++ [a]) h.live_eq).trans (append_assoc _ _ _)
    fresh_sublist := h.fresh_sublist.append (Sublist.refl _) }⟩

theorem drop (h : Ordered n published shown replay live) (hlive : live' <+ live) :
    Ordered n published shown replay live' := by
  obtain ⟨h⟩ := h
  rw [h.live_eq] at hlive
  obtain ⟨overlap, fresh, heq, hoverlap, hfresh⟩ := sublist_append_iff.mp hlive
  exact ⟨{ h with
    overlap
    fresh
    live_eq := heq
    fresh_sublist := hfresh.trans h.fresh_sublist
    overlap_subset := fun _ ha => h.overlap_subset (hoverlap.subset ha) }⟩

theorem reached_tail (h : Alignment n published shown (a :: replay) live) (ha : a ∈ xs)
    (hsubset : shown ⊆ xs) : ∀ b ∈ h.window, b ∈ xs ∨ b ∈ replay := by
  intro b hb
  cases h.reached b hb with
  | inl hmem => exact .inl (hsubset hmem)
  | inr hmem =>
    cases mem_cons.mp hmem with
    | inl heq => exact .inl (heq ▸ ha)
    | inr hmem => exact .inr hmem

end Ordered

variable [DecidableEq α]

/-- A reader shows what it does not know. -/
def present (n : Nat) (shown : List α) (a : α) : List α :=
  if a ∈ shown.rtake n then shown else shown ++ [a]

theorem present_of_not_mem {shown : List α} (h : a ∉ shown.rtake n) :
    present n shown a = shown ++ [a] := if_neg h

theorem present_of_mem {shown : List α} (h : a ∈ shown.rtake n) : present n shown a = shown :=
  if_pos h

theorem foldl_present_of_not_mem {shown : List α} (hnodup : xs.Nodup)
    (h : ∀ a ∈ xs, a ∉ shown) : xs.foldl (present n) shown = shown ++ xs := by
  induction xs generalizing shown with
  | nil => exact (append_nil _).symm
  | cons a xs ih =>
    rw [nodup_cons] at hnodup
    rw [foldl_cons, present_of_not_mem (not_mem_rtake_of_not_mem (h a mem_cons_self)),
      ih hnodup.2, append_assoc]
    · rfl
    · intro b hb hmem
      cases mem_append.mp hmem with
      | inl hmem => exact h b (mem_cons_of_mem _ hb) hmem
      | inr hmem => exact hnodup.1 (mem_singleton.mp hmem ▸ hb)

theorem foldl_present_of_mem {shown : List α} (h : ∀ a ∈ xs, a ∈ shown.rtake n) :
    xs.foldl (present n) shown = shown := by
  induction xs with
  | nil => rfl
  | cons a xs ih =>
    rw [foldl_cons, present_of_mem (h a mem_cons_self)]
    exact ih fun b hb => h b (mem_cons_of_mem _ hb)

namespace Ordered

variable {published shown replay live : List α}

theorem replayed (hnodup : published.Nodup) (h : Ordered n published shown (a :: replay) live) :
    Ordered n published (present n shown a) replay live := by
  obtain ⟨h⟩ := h
  have hpast := past_nodup hnodup h
  have ha : a ∈ h.window := h.replay_suffix.subset mem_cons_self
  by_cases hknown : a ∈ shown
  · rw [present_of_mem
      (mem_rtake_of_sublist hpast h.shown_sublist h.window_suffix h.window_length hknown ha)]
    exact ⟨{ h with
      replay_suffix := (suffix_cons a replay).trans h.replay_suffix
      reached := reached_tail h hknown (Subset.refl _)
      on_time := fun b hb => h.on_time b (mem_cons_of_mem _ hb) }⟩
  · rw [present_of_not_mem (not_mem_rtake_of_not_mem hknown)]
    refine ⟨{ h with
      shown_sublist := concat_sublist h.shown_sublist (h.window_suffix.subset ha) hknown
        fun c hc hbefore => hknown (h.on_time a mem_cons_self c hc hbefore)
      replay_suffix := (suffix_cons a replay).trans h.replay_suffix
      reached := reached_tail h (mem_append_right _ mem_cons_self) (subset_append_left _ _)
      on_time := fun b hb c hc hbefore => ?_ }⟩
    cases mem_append.mp hc with
    | inl hc => exact mem_append_left _ (h.on_time b (mem_cons_of_mem _ hb) c hc hbefore)
    | inr hc =>
      -- the replay itself is in order
      have hafter : [a, b] <+ h.past := ((singleton_sublist.mpr hb).cons_cons a).trans
        (h.replay_suffix.trans h.window_suffix).sublist
      rw [mem_singleton.mp hc] at hbefore
      exact absurd hbefore (not_sublist_swap hpast hafter)

theorem delivered (hnodup : published.Nodup) (h : Ordered n published shown [] (a :: live)) :
    Ordered n published (present n shown a) [] live := by
  obtain ⟨h⟩ := h
  have hlive := h.live_eq
  cases hoverlap : h.overlap with
  | cons c overlap =>
    rw [hoverlap] at hlive
    obtain ⟨rfl, heq⟩ := cons.inj hlive
    have ha : a ∈ h.window := h.overlap_subset (hoverlap ▸ mem_cons_self)
    have hknown : a ∈ shown := (h.reached a ha).resolve_right not_mem_nil
    rw [present_of_mem (mem_rtake_of_sublist (past_nodup hnodup h) h.shown_sublist
      h.window_suffix h.window_length hknown ha)]
    exact ⟨{ h with
      overlap
      live_eq := heq
      overlap_subset := fun b hb => h.overlap_subset (hoverlap ▸ mem_cons_of_mem _ hb) }⟩
  | nil =>
    have hfresh := h.fresh_sublist
    rw [hoverlap, nil_append] at hlive
    rw [← hlive] at hfresh
    obtain ⟨first, last, hfuture, hfirst, hlast⟩ := cons_sublist_iff.mp hfresh
    have hpublished : published = h.past ++ first ++ last := by
      rw [append_assoc, ← hfuture]
      exact h.published_eq
    have hnew : a ∉ shown := by
      rw [hpublished, append_assoc] at hnodup
      intro hmem
      exact (nodup_append.mp hnodup).2.2 a (h.shown_sublist.subset hmem) a
        (mem_append_left _ hfirst) rfl
    rw [present_of_not_mem (not_mem_rtake_of_not_mem hnew)]
    exact ⟨{
      past := h.past ++ first
      future := last
      window := []
      overlap := []
      fresh := live
      published_eq := hpublished
      live_eq := rfl
      shown_sublist := h.shown_sublist.append (singleton_sublist.mpr hfirst)
      fresh_sublist := hlast
      window_suffix := nil_suffix
      window_length := Nat.zero_le _
      replay_suffix := nil_suffix
      overlap_subset := nil_subset _
      reached := fun _ hb => absurd hb not_mem_nil
      on_time := fun _ hb => absurd hb not_mem_nil }⟩

end Ordered

end Replay
