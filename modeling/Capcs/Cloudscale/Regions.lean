import Mathlib.Tactic.Common

/-!
# Capcs.Cloudscale.Regions — regions, zones and flavors

`internal/cloudscale/regions.go`, and what the webhooks ask of `flavors.go`. A Go
map is an association list whose newest entry comes first.
-/

namespace Capcs.Cloudscale

/-- The fields of the SDK's `Region` that are read: its slug and the slugs of its
zones. -/
structure Region where
  slug : String
  zones : List String
  deriving DecidableEq, Repr

/-- `RegionInfo`: the zones of each region, and the region of each zone. -/
structure RegionInfo where
  regions : List (String × List String) := []
  zones : List (String × String) := []
  deriving DecidableEq, Repr

/-- One round of the loop of `NewRegionInfo`. -/
def RegionInfo.add (ri : RegionInfo) (r : Region) : RegionInfo :=
  { regions := (r.slug, r.zones) :: ri.regions
    zones := (r.zones.map fun z => (z, r.slug)).reverse ++ ri.zones }

/-- `NewRegionInfo`. -/
def newRegionInfo (regions : List Region) : RegionInfo := regions.foldl RegionInfo.add {}

/-- `ZoneBelongsToRegion`. -/
def RegionInfo.zoneBelongsToRegion (ri : RegionInfo) (zone region : String) : Bool :=
  ri.zones.lookup zone = some region

/-- `GetDefaultZoneForRegion`: the first zone, or nothing. -/
def RegionInfo.getDefaultZoneForRegion (ri : RegionInfo) (region : String) : String :=
  ((ri.regions.lookup region).getD []).headD ""

/-! ## What is listed -/

theorem mem_add_fold (regions : List Region) (ri : RegionInfo) :
    (∀ e, e ∈ (regions.foldl RegionInfo.add ri).regions ↔
      e ∈ ri.regions ∨ ∃ r ∈ regions, e = (r.slug, r.zones)) ∧
    ∀ e, e ∈ (regions.foldl RegionInfo.add ri).zones ↔
      e ∈ ri.zones ∨ ∃ r ∈ regions, ∃ z ∈ r.zones, e = (z, r.slug) := by
  induction regions generalizing ri with
  | nil => simp
  | cons r rest ih =>
      obtain ⟨hregions, hzones⟩ := ih (ri.add r)
      refine ⟨fun e => ?_, fun e => ?_⟩
      · rw [List.foldl_cons, hregions]
        simp only [RegionInfo.add, List.mem_cons, exists_eq_or_imp]
        tauto
      · rw [List.foldl_cons, hzones]
        have hadd : e ∈ (ri.add r).zones ↔ e ∈ ri.zones ∨ ∃ z ∈ r.zones, e = (z, r.slug) := by
          simp only [RegionInfo.add, List.mem_append, List.mem_reverse, List.mem_map]
          constructor
          · rintro (⟨z, hz, rfl⟩ | h)
            · exact .inr ⟨z, hz, rfl⟩
            · exact .inl h
          · rintro (h | ⟨z, hz, rfl⟩)
            · exact .inr h
            · exact .inl ⟨z, hz, rfl⟩
        rw [hadd, or_assoc]
        simp only [List.mem_cons, exists_eq_or_imp]

/-- No zone is listed under two regions. -/
def ZonesOnce (regions : List Region) : Prop :=
  ∀ r ∈ regions, ∀ r' ∈ regions, ∀ z ∈ r.zones, z ∈ r'.zones → r.slug = r'.slug

instance (regions : List Region) : Decidable (ZonesOnce regions) :=
  inferInstanceAs (Decidable (∀ r ∈ regions, ∀ r' ∈ regions, ∀ z ∈ r.zones, _ → _))

/-- The default zone of a region belongs to it. -/
theorem defaultZone_belongs {regions : List Region} (h : ZonesOnce regions) {region : String}
    (hne : (newRegionInfo regions).getDefaultZoneForRegion region ≠ "") :
    (newRegionInfo regions).zoneBelongsToRegion
      ((newRegionInfo regions).getDefaultZoneForRegion region) region = true := by
  obtain ⟨hregions, hzones⟩ := mem_add_fold regions {}
  unfold RegionInfo.getDefaultZoneForRegion at hne ⊢
  cases hlookup : (newRegionInfo regions).regions.lookup region with
  | none => simp [hlookup] at hne
  | some zones =>
      rw [hlookup] at hne
      cases zones with
      | nil => simp at hne
      | cons z rest =>
          -- the zone is listed under its region, and under no other
          have hmem : (region, z :: rest) ∈ (newRegionInfo regions).regions := by
            obtain ⟨l₁, l₂, heq, -⟩ := List.lookup_eq_some_iff.mp hlookup
            rw [heq]
            simp
          rcases (hregions _).mp hmem with hmem | ⟨r, hr, heq⟩
          · cases hmem
          · obtain ⟨rfl, hz⟩ := Prod.mk.inj heq
            have hzr : z ∈ r.zones := hz ▸ List.mem_cons_self
            have hlisted : (z, r.slug) ∈ (newRegionInfo regions).zones :=
              (hzones _).mpr (.inr ⟨r, hr, z, hzr, rfl⟩)
            have hregion : (newRegionInfo regions).zones.lookup z = some r.slug := by
              cases hzone : (newRegionInfo regions).zones.lookup z with
              | none =>
                  have hno := List.lookup_eq_none_iff.mp hzone _ hlisted
                  simp at hno
              | some slug =>
                  obtain ⟨l₁, l₂, heq, -⟩ := List.lookup_eq_some_iff.mp hzone
                  have hmem' : (z, slug) ∈ (newRegionInfo regions).zones := by
                    rw [heq]
                    simp
                  rcases (hzones _).mp hmem' with hmem' | ⟨r', hr', z', hz', heq'⟩
                  · cases hmem'
                  · obtain ⟨rfl, rfl⟩ := Prod.mk.inj heq'
                    exact congrArg some (h r' hr' r hr _ hz' hzr)
            simp [RegionInfo.zoneBelongsToRegion, hregion]

/-- `FlavorInfo`, as far as the webhooks look at it: the known slugs. -/
structure FlavorInfo where
  flavors : List String
  deriving DecidableEq, Repr

/-- `IsValidFlavor`. -/
def FlavorInfo.isValidFlavor (fi : FlavorInfo) (slug : String) : Bool := slug ∈ fi.flavors

end Capcs.Cloudscale
