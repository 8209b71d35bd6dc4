import Mathlib.MeasureTheory.Measure.Lebesgue.Basic
import Mathlib.MeasureTheory.Measure.Real
import SpatialAccess.Proofs.Facility.Grammar
import SpatialAccess.Proofs.Scoring.Conservation

/-!
# Time performed and opening times

* `Stay.openPart`: the part of a stay during which some hours are open.
* `Span.covered`: what spans of time cover. `Span.volume_covered_eq_iff`: their lengths add up to
  that just if any two of them are apart.
* `mem_covered_segments_clip_iff`, `Stay.volume_openPart`: the parts of a stay cover the time that is
  open.
* **`Stay.performed_eq_volume_openPart_iff`**: the time performed is the time that is open, just if
  the parts of the stay are apart.
* `marketDocument`: a document that can be read, with hours that overlap.
  **`waiting_neg_marketDocument`**: they count twice, and the time waited is negative.
-/

namespace SpatialAccess

open MeasureTheory

/-! ## Spans of time -/

namespace Span

/-- The times that spans cover. -/
def covered (spans : List (ℝ × ℝ)) : Set ℝ :=
  ⋃ s ∈ spans, Set.Icc s.1 s.2

theorem mem_covered_iff {spans : List (ℝ × ℝ)} {x : ℝ} :
    x ∈ covered spans ↔ ∃ s ∈ spans, x ∈ Set.Icc s.1 s.2 := by
  simp only [covered, Set.mem_iUnion, exists_prop]

theorem covered_nil : covered [] = ∅ := by simp [covered]

theorem covered_cons (s : ℝ × ℝ) (spans : List (ℝ × ℝ)) :
    covered (s :: spans) = Set.Icc s.1 s.2 ∪ covered spans := by
  simp [covered]

theorem measurableSet_covered (spans : List (ℝ × ℝ)) : MeasurableSet (covered spans) :=
  .biUnion spans.finite_toSet.countable fun _ _ => measurableSet_Icc

/-- Whether spans have no more than an end in common. -/
def Apart (s t : ℝ × ℝ) : Prop :=
  min s.2 t.2 ≤ max s.1 t.1

theorem volume_covered_ne_top (spans : List (ℝ × ℝ)) : volume (covered spans) ≠ ⊤ := by
  induction spans with
  | nil => simp [covered_nil]
  | cons s spans ih =>
    rw [covered_cons]
    exact measure_union_ne_top measure_Icc_lt_top.ne ih

theorem volume_inter_covered_eq_zero_iff {s : ℝ × ℝ} {spans : List (ℝ × ℝ)} :
    volume.real (Set.Icc s.1 s.2 ∩ covered spans) = 0 ↔ ∀ t ∈ spans, Apart s t := by
  rw [measureReal_eq_zero_iff
    (measure_ne_top_of_subset Set.inter_subset_left measure_Icc_lt_top.ne), covered,
    Set.inter_iUnion₂]
  refine (measure_biUnion_null_iff spans.finite_toSet.countable).trans (forall₂_congr fun t _ => ?_)
  rw [Set.Icc_inter_Icc, Real.volume_Icc, ENNReal.ofReal_eq_zero, sub_nonpos]
  rfl

/-- One span more adds its length, less what it has in common with the others. -/
theorem volume_covered_cons {s : ℝ × ℝ} (hs : s.1 ≤ s.2) (spans : List (ℝ × ℝ)) :
    volume.real (covered (s :: spans)) =
      s.2 - s.1 + volume.real (covered spans) - volume.real (Set.Icc s.1 s.2 ∩ covered spans) := by
  rw [covered_cons, ← Real.volume_real_Icc_of_le hs, eq_sub_iff_add_eq]
  exact measureReal_union_add_inter (measurableSet_covered spans) measure_Icc_lt_top.ne
    (volume_covered_ne_top spans)

theorem volume_covered_le {spans : List (ℝ × ℝ)} (h : ∀ s ∈ spans, s.1 ≤ s.2) :
    volume.real (covered spans) ≤ (spans.map fun s => s.2 - s.1).sum := by
  induction spans with
  | nil => simp [covered_nil]
  | cons s spans ih =>
    rw [List.forall_mem_cons] at h
    rw [volume_covered_cons h.1, List.map_cons, List.sum_cons]
    have hcommon : 0 ≤ volume.real (Set.Icc s.1 s.2 ∩ covered spans) := measureReal_nonneg
    linarith [ih h.2]

/-- **The lengths of spans add up to what they cover** just if any two of them are apart. -/
theorem volume_covered_eq_iff {spans : List (ℝ × ℝ)} (h : ∀ s ∈ spans, s.1 ≤ s.2) :
    volume.real (covered spans) = (spans.map fun s => s.2 - s.1).sum ↔ spans.Pairwise Apart := by
  induction spans with
  | nil => simp [covered_nil]
  | cons s spans ih =>
    rw [List.forall_mem_cons] at h
    rw [List.pairwise_cons, ← volume_inter_covered_eq_zero_iff, ← ih h.2,
      volume_covered_cons h.1, List.map_cons, List.sum_cons]
    have hcommon : 0 ≤ volume.real (Set.Icc s.1 s.2 ∩ covered spans) := measureReal_nonneg
    have hle := volume_covered_le h.2
    -- both what the first span shares with the others and what they share can only take away
    constructor
    · intro heq
      constructor <;> linarith
    · rintro ⟨hnone, heq⟩
      rw [hnone, heq, sub_zero]

end Span

/-! ## Hours -/

/-- Whether hours are open at a time. A negative opening or closing time stands for none. -/
def OpeningTime.IsOpenAt (t : OpeningTime ℝ) (x : ℝ) : Prop :=
  (0 ≤ t.opens → t.opens ≤ x) ∧ (0 ≤ t.closes → x ≤ t.closes)

/-- The part of a stay during which some hours in effect on a day are open, or all of it if there
are none. -/
def Stay.openPart (s : Stay ℝ) (facilities : Facilities ℝ) (day : DayType) : Set ℝ :=
  match s.openingTimes facilities day with
  | [] => Set.Icc s.arrival s.departure
  | hours => {x ∈ Set.Icc s.arrival s.departure | ∃ t ∈ hours, t.IsOpenAt x}

/-- The part of a stay in some hours is what they share with it. If they share nothing, it is the
moment of the departure. -/
theorem mem_clipTo_iff {arrival departure x : ℝ} (hx : x ≠ departure) (t : OpeningTime ℝ) :
    x ∈ Set.Icc (clipTo arrival departure t).1 (clipTo arrival departure t).2 ↔
      x ∈ Set.Icc arrival departure ∧ t.IsOpenAt x := by
  simp only [clipTo, Nat.cast_zero]
  split
  · next hmissed =>
    obtain ⟨⟨hopens, hcloses⟩, hmissed⟩ := hmissed
    rw [Set.Icc_self, Set.mem_singleton_iff, iff_false_left hx]
    rintro ⟨⟨harrival, hdeparture⟩, hfrom, huntil⟩
    obtain hlate | hearly := hmissed
    · exact (hlate.trans_le (hfrom hopens)).not_ge hdeparture
    · exact ((huntil hcloses).trans_lt hearly).not_ge harrival
  · have hstart : (if 0 ≤ t.opens ∧ arrival < t.opens then t.opens else arrival) ≤ x ↔
        arrival ≤ x ∧ (0 ≤ t.opens → t.opens ≤ x) := by
      split
      · next h => exact ⟨fun hx => ⟨h.2.le.trans hx, fun _ => hx⟩, fun hx => hx.2 h.1⟩
      · next h =>
        exact ⟨fun hx => ⟨hx, fun h0 => (not_lt.1 fun hlt => h ⟨h0, hlt⟩).trans hx⟩, And.left⟩
    have hend : x ≤ (if 0 ≤ t.closes ∧ t.closes < departure then t.closes else departure) ↔
        x ≤ departure ∧ (0 ≤ t.closes → x ≤ t.closes) := by
      split
      · next h => exact ⟨fun hx => ⟨hx.trans h.2.le, fun _ => hx⟩, fun hx => hx.2 h.1⟩
      · next h =>
        exact ⟨fun hx => ⟨hx, fun h0 => hx.trans (not_lt.1 fun hlt => h ⟨h0, hlt⟩)⟩, And.left⟩
    rw [Set.mem_Icc, hstart, hend, and_and_and_comm]
    rfl

/-- What the parts of a stay within hours cover is the time during which some of them are open, but
for the moment of the departure. -/
theorem mem_covered_segments_clip_iff {arrival departure x : ℝ} {hours : List (OpeningTime ℝ)}
    (h : hours ≠ []) (hx : x ≠ departure) :
    x ∈ Span.covered (clip arrival departure hours).segments ↔
      x ∈ Set.Icc arrival departure ∧ ∃ t ∈ hours, t.IsOpenAt x := by
  rw [segments_clip h, Span.mem_covered_iff]
  constructor
  · rintro ⟨span, hspan, hx'⟩
    obtain ⟨t, ht, rfl⟩ := List.mem_map.1 hspan
    obtain ⟨hstay, hopen⟩ := (mem_clipTo_iff hx t).1 hx'
    exact ⟨hstay, t, ht, hopen⟩
  · rintro ⟨hstay, t, ht, hopen⟩
    exact ⟨_, List.mem_map_of_mem ht, (mem_clipTo_iff hx t).2 ⟨hstay, hopen⟩⟩

namespace Stay

variable (s : Stay ℝ) (facilities : Facilities ℝ) (day : DayType)

theorem openPart_subset : s.openPart facilities day ⊆ Set.Icc s.arrival s.departure := by
  unfold openPart
  split
  · exact subset_rfl
  · exact Set.sep_subset _ _

/-- What the parts of a stay cover is the time during which some hours are open, but for the moment
of the departure. -/
theorem mem_covered_segments_iff {x : ℝ} (hx : x ≠ s.departure) :
    x ∈ Span.covered (s.clipped facilities day).segments ↔ x ∈ s.openPart facilities day := by
  unfold clipped openPart
  split
  · next hnone => simp only [hnone, clip, Span.covered_cons, Span.covered_nil, Set.union_empty]
  · next hsome => exact mem_covered_segments_clip_iff hsome hx

theorem volume_openPart :
    volume.real (s.openPart facilities day) =
      volume.real (Span.covered (s.clipped facilities day).segments) := by
  refine measureReal_congr ?_
  filter_upwards [Measure.ae_ne volume s.departure] with x hx
  exact propext (s.mem_covered_segments_iff facilities day hx).symm

variable {s facilities day}

/-- The time performed of a stay none of whose parts ends before it starts is at least the time
during which some hours are open, and it is that time just if the parts are apart. -/
theorem performed_eq_volume_openPart_iff (h : s.arrival ≤ s.departure)
    (hparts : ∀ span ∈ (s.clipped facilities day).segments, span.1 ≤ span.2) :
    volume.real (s.openPart facilities day) ≤ (s.clipped facilities day).performed ∧
    (s.clipped facilities day).performed + (s.clipped facilities day).waiting =
      s.departure - s.arrival ∧
    ((s.clipped facilities day).performed = volume.real (s.openPart facilities day) ↔
      (s.clipped facilities day).segments.Pairwise Span.Apart) ∧
    ((s.clipped facilities day).segments.Pairwise Span.Apart →
      (s.clipped facilities day).performed ∈ Set.Icc 0 (s.departure - s.arrival) ∧
      (s.clipped facilities day).waiting ∈ Set.Icc 0 (s.departure - s.arrival)) := by
  have hwaiting := s.performed_add_waiting facilities day
  have hiff : (s.clipped facilities day).performed = volume.real (s.openPart facilities day) ↔
      (s.clipped facilities day).segments.Pairwise Span.Apart := by
    rw [performed_eq_sum, volume_openPart, eq_comm]
    exact Span.volume_covered_eq_iff hparts
  refine ⟨?_, hwaiting, hiff, fun hapart => ?_⟩
  · rw [performed_eq_sum, volume_openPart]
    exact Span.volume_covered_le hparts
  have hle : volume.real (s.openPart facilities day) ≤ s.departure - s.arrival := by
    rw [← Real.volume_real_Icc_of_le h]
    exact measureReal_mono (s.openPart_subset facilities day) measure_Icc_lt_top.ne
  have hnonneg : 0 ≤ volume.real (s.openPart facilities day) := measureReal_nonneg
  rw [← hiff.2 hapart] at hle hnonneg
  refine ⟨⟨hnonneg, hle⟩, ?_, ?_⟩ <;> linarith

/-- A visit to the market on a Wednesday from twelve to two: one hour is performed, one waited. -/
theorem performed_eq_volume_openPart_market :
    let stay : Stay ℝ :=
      { activityType := "shop", facility? := some ⟨0⟩, arrival := 43200, departure := 50400 }
    (stay.clipped market .wed).performed = volume.real (stay.openPart market .wed) ∧
      (stay.clipped market .wed).performed ∈ Set.Icc 0 (50400 - 43200) ∧
      (stay.clipped market .wed).waiting ∈ Set.Icc 0 (50400 - 43200) := by
  intro stay
  have hsegments : (stay.clipped market .wed).segments = [(43200, 43200), (43200, 46800)] := by
    have hhours : stay.openingTimes market .wed = marketHours := openingTimes_market rfl rfl .wed
    rw [clipped, hhours]
    norm_num [clip, marketHours, clipTo, stay]
  have hparts : ∀ span ∈ (stay.clipped market .wed).segments, span.1 ≤ span.2 := by
    rw [hsegments]
    norm_num
  have hapart : (stay.clipped market .wed).segments.Pairwise Span.Apart := by
    rw [hsegments]
    norm_num [Span.Apart]
  obtain ⟨-, -, hiff, hbounds⟩ := performed_eq_volume_openPart_iff (by norm_num [stay]) hparts
  exact ⟨hiff.2 hapart, hbounds hapart⟩

end Stay

/-! ## Written times -/

theorem Number.read?_eq_some {s : String} {n : ℕ}
    (h : Decimal.Literal.read? s = some (.finite false n 0)) : (read? s : Option ℝ) = some n := by
  rw [read?, h, Option.bind_some]
  simp [ofLiteral?, exactLiteral?]

/-- A time of day in whole hours and minutes. -/
theorem Clock.read_eq_ok {text : String} {h m : ℕ}
    (hsign : (Text.trim text).toList.head? ≠ some '-')
    (hparts : (Text.pieces ':' (Text.trim text).toList).map
      (fun part => Decimal.Literal.read? (Text.trim (String.ofList part))) =
        [some (.finite false h 0), some (.finite false m 0)]) :
    read text = .ok ((h : ℝ) * 3600 + m * 60) := by
  have hpart : ∀ {part : List Char} {n : ℕ},
      Decimal.Literal.read? (Text.trim (String.ofList part)) = some (.finite false n 0) →
        readPart (Text.trim text) part = .ok (n : ℝ) := fun hn => by
    simp [readPart, Number.read?_eq_some hn]
  obtain ⟨hours, rest, hpieces, hhours, hrest⟩ := List.map_eq_cons_iff.1 hparts
  obtain ⟨minutes, _, rfl, hminutes, hnil⟩ := List.map_eq_cons_iff.1 hrest
  rw [List.map_eq_nil_iff.1 hnil] at hpieces
  simp only [read]
  split
  · next hempty =>
    rw [hempty] at hpieces
    cases hpieces
  · next hminus => simp [hminus] at hsign
  · rw [hpieces, readParts, hpart hhours, hpart hminutes]
    simp [bind, Except.bind, pure, Except.pure]

/-! ## A document -/

/-- The element of some opening hours. -/
def hoursElement (day opens closes : String) : Detail :=
  .opentime [("day", day), ("start_time", opens), ("end_time", closes)]

/-- The hours of the market as a document gives them. -/
def marketDetails : List Detail :=
  [hoursElement "wkday" "09:00" "12:00", .opentimeEnd,
    hoursElement "wed" "10:00" "13:00", .opentimeEnd]

/-- The market as a document describes it. -/
def marketElement : FacilityElement where
  attributes := [("id", "market"), ("x", "0"), ("y", "0")]
  activities := [{ attributes := [("type", "shop")], details := marketDetails }]

/-- A document with nothing but the market. -/
def marketDocument : FacilitiesDocument :=
  [{ attributes := [], facilities := [marketElement] }]

theorem openingTime?_hoursElement {day opens closes : String} {d : DayType} {o c : ℝ}
    (hday : DayType.read? day = some d) (hopens : Clock.read opens = .ok o)
    (hcloses : Clock.read closes = .ok c) :
    (hoursElement day opens closes).openingTime? = some (⟨d, o, c⟩ : OpeningTime ℝ) := by
  simp [hoursElement, Detail.openingTime?, TagAttributes.openingTime?, TagAttributes.time?,
    List.lookup_cons, hday, hopens, hcloses, Except.toOption]

/-- Both opening hours of the market can be read. -/
theorem openingTime?_market :
    (hoursElement "wkday" "09:00" "12:00").openingTime? =
        some (⟨.wkday, 32400, 43200⟩ : OpeningTime ℝ) ∧
      (hoursElement "wed" "10:00" "13:00").openingTime? =
        some (⟨.wed, 36000, 46800⟩ : OpeningTime ℝ) := by
  have hnine : (Clock.read "09:00" : Except Clock.Error ℝ) = .ok 32400 := by
    rw [Clock.read_eq_ok (h := 9) (m := 0) (by decide) (by decide)]
    norm_num
  have hten : (Clock.read "10:00" : Except Clock.Error ℝ) = .ok 36000 := by
    rw [Clock.read_eq_ok (h := 10) (m := 0) (by decide) (by decide)]
    norm_num
  have htwelve : (Clock.read "12:00" : Except Clock.Error ℝ) = .ok 43200 := by
    rw [Clock.read_eq_ok (h := 12) (m := 0) (by decide) (by decide)]
    norm_num
  have hone : (Clock.read "13:00" : Except Clock.Error ℝ) = .ok 46800 := by
    rw [Clock.read_eq_ok (h := 13) (m := 0) (by decide) (by decide)]
    norm_num
  exact ⟨openingTime?_hoursElement (by decide) hnine htwelve,
    openingTime?_hoursElement (by decide) hten hone⟩

theorem openingTimes_marketDetails :
    marketDetails.filterMap Detail.openingTime? = marketHours := by
  rw [marketDetails, List.filterMap_cons_some openingTime?_market.1, List.filterMap_cons_none rfl,
    List.filterMap_cons_some openingTime?_market.2, List.filterMap_cons_none rfl]
  rfl

theorem option?_marketElement :
    (marketElement.option? "shop" : Option (ActivityOption ℝ)) = some marketShop := by
  have hoption : (marketElement.option? "shop" : Option (ActivityOption ℝ)) = some {
      activityType := "shop"
      openingTimes := marketDetails.filterMap Detail.openingTime? ++ [] } := rfl
  rw [hoption, openingTimes_marketDetails, List.append_nil, marketShop]

theorem isReadable_marketElement : marketElement.isReadable ℝ = true := by
  have hzero : (Number.read? (Text.trim "0") : Option ℝ) = some ((0 : ℕ) : ℝ) :=
    Number.read?_eq_some (by decide)
  have hcoord : ∀ key, marketElement.attributes.lookup key = some "0" →
      (marketElement.attributes.number? key : Option ℝ) = some ((0 : ℕ) : ℝ) := fun key hkey => by
    rw [TagAttributes.number?, hkey, Option.bind_some, hzero]
  refine FacilityElement.isReadable_iff.2 ⟨"market", rfl, ⟨(0 : ℕ), (0 : ℕ)⟩, ?_, ?_⟩
  · rw [TagAttributes.point?, hcoord "x" rfl, hcoord "y" rfl]
    rfl
  · have hhours : ∀ {day opens closes : String} {t : OpeningTime ℝ},
        (hoursElement day opens closes).openingTime? = some t →
          (hoursElement day opens closes).isReadable ℝ = true := fun h => by
      simp only [hoursElement, Detail.openingTime?] at h
      simp only [hoursElement, Detail.isReadable, h, Option.isSome_some]
    have hdetails : ∀ d ∈ marketDetails, d.isReadable ℝ = true :=
      List.forall_mem_cons.2 ⟨hhours openingTime?_market.1, List.forall_mem_cons.2 ⟨rfl,
        List.forall_mem_cons.2 ⟨hhours openingTime?_market.2, List.forall_mem_singleton.2 rfl⟩⟩⟩
    refine List.forall_mem_singleton.2 ?_
    rw [ActivityElement.isReadable, Bool.and_eq_true]
    exact ⟨rfl, List.all_eq_true.2 hdetails⟩

/-- **Hours that overlap count twice.** A collection that can be read has them; on a visit during
which it is open all the time, more time is performed than there is, and the time waited is
negative. -/
theorem waiting_neg_marketDocument :
    ∃ facilities : Facilities ℝ, Facilities.ofTags marketDocument.tags = .ok facilities ∧
      let stay : Stay ℝ :=
        { activityType := "shop", facility? := some ⟨0⟩, arrival := 32400, departure := 46800 }
      volume.real (stay.openPart facilities .wed) = 14400 ∧
        (stay.clipped facilities .wed).performed = 21600 ∧
        (stay.clipped facilities .wed).waiting = -7200 := by
  have hallowed : FacilityElement.Allowed ℝ marketDocument.facilities :=
    ⟨List.forall_mem_singleton.2 isReadable_marketElement, List.nodup_singleton _, by decide⟩
  obtain ⟨facilities, hfacilities⟩ := (Facilities.addDocument?_spec marketDocument).1.2 hallowed
  have hlists := (Facilities.addDocument?_spec marketDocument).2 facilities hfacilities
  refine ⟨facilities, (Facilities.ofTags_tags _ _).2 hfacilities, ?_⟩
  intro stay
  have hhours : stay.openingTimes facilities .wed = marketHours := by
    obtain ⟨f, hf, -, hdescribes⟩ := hlists.lists.get? 0 marketElement rfl
    have hfacility : stay.facility?.bind facilities.get? = some f := hf
    have hoption : f.option? stay.activityType = some marketShop :=
      (hdescribes.option? "shop").trans option?_marketElement
    rw [Stay.openingTimes, hfacility, Option.bind_some, hoption]
    exact openingTimesOn_marketShop .wed
  have hclipped : stay.clipped facilities .wed =
      { segments := [(32400, 43200), (36000, 46800)], performed := 21600, waiting := -7200 } := by
    rw [Stay.clipped, hhours]
    norm_num [clip, marketHours, clipTo, stay]
  refine ⟨?_, by rw [hclipped], by rw [hclipped]⟩
  rw [Stay.volume_openPart, hclipped, Span.covered_cons, Span.covered_cons, Span.covered_nil,
    Set.union_empty, Set.Icc_union_Icc' (by norm_num) (by norm_num),
    Real.volume_real_Icc_of_le (by norm_num)]
  norm_num

end SpatialAccess
