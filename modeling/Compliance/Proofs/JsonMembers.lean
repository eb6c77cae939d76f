import Compliance.Json.Value
import Compliance.NameSet
import Compliance.Proofs.NamedValues

/-!
Objects from members. Members may be given in any order: the object keeps their
keys in ascending order, and of several members with one key the last one
counts.
-/

namespace Compliance.Json

theorem lookup_insertMember (key other : String) (value : Json)
    (members : List (String × Json)) :
    (insertMember key value members).lookup other =
      if other = key then some value else members.lookup other := by
  induction members with
  | nil => exact lookup_cons_eq key other value []
  | cons member rest ih =>
    obtain ⟨name, held⟩ := member
    rw [insertMember]
    split
    · exact lookup_cons_eq key other value _
    split
    · next hsame =>
      rw [lookup_cons_eq, lookup_cons_eq, ← hsame]
      split <;> rfl
    · next hdiffer =>
      rw [lookup_cons_eq, ih, lookup_cons_eq]
      by_cases h : other = key
      · simp [h, hdiffer]
      · simp [h]

/-- Of several members with one key the last one counts. -/
theorem member?_ofMembers (members : List (String × Json)) (key : String) :
    (ofMembers members).member? key = members.reverse.lookup key := by
  have hfold : ∀ built, (members.foldl
      (fun built member => insertMember member.1 member.2 built) built).lookup key =
        (members.reverse ++ built).lookup key := by
    induction members with
    | nil => simp
    | cons member rest ih =>
      intro built
      rw [List.foldl_cons, ih, List.reverse_cons, List.append_assoc,
        List.lookup_append, List.lookup_append, lookup_insertMember,
        List.singleton_append, lookup_cons_eq]
  simpa [ofMembers, member?] using hfold []

theorem member?_ofMembers_of_mem {members : List (String × Json)}
    {member : String × Json} (hnodup : (members.map Prod.fst).Nodup)
    (h : member ∈ members) : (ofMembers members).member? member.1 = some member.2 := by
  rw [member?_ofMembers]
  apply lookup_of_mem
  · rw [List.map_reverse]
    exact List.pairwise_reverse.mpr (hnodup.imp Ne.symm)
  · exact List.mem_reverse.mpr h

theorem mem_insertMember {key : String} {value : Json} {member : String × Json}
    {members : List (String × Json)} (h : member ∈ insertMember key value members) :
    member = (key, value) ∨ member ∈ members := by
  induction members with
  | nil => simpa [insertMember] using h
  | cons head rest ih =>
    obtain ⟨other, held⟩ := head
    rw [insertMember] at h
    split at h
    · simpa using h
    split at h
    · rcases List.mem_cons.mp h with rfl | hm
      · exact .inl rfl
      · exact .inr (List.mem_cons_of_mem _ hm)
    · rcases List.mem_cons.mp h with rfl | hm
      · exact .inr List.mem_cons_self
      · exact (ih hm).imp_right (List.mem_cons_of_mem _)

theorem insertMember_ascending {key : String} (value : Json)
    {members : List (String × Json)}
    (h : (members.map Prod.fst).Pairwise (· < ·)) :
    ((insertMember key value members).map Prod.fst).Pairwise (· < ·) := by
  induction members with
  | nil => simp [insertMember]
  | cons head rest ih =>
    obtain ⟨other, held⟩ := head
    obtain ⟨hhead, hrest⟩ := List.pairwise_cons.mp h
    rw [insertMember]
    split
    · next hless =>
      refine List.pairwise_cons.mpr ⟨fun name hm => ?_, h⟩
      rcases List.mem_cons.mp hm with rfl | hm
      · exact hless
      · exact String.lt_trans hless (hhead name hm)
    split
    · next hsame =>
      subst hsame
      exact h
    · next hless hdiffer =>
      refine List.pairwise_cons.mpr ⟨fun name hm => ?_, ih hrest⟩
      obtain ⟨member, hmember, rfl⟩ := List.mem_map.mp hm
      rcases mem_insertMember hmember with rfl | hmember
      · exact NameSet.lt_of_not_lt_of_ne hless hdiffer
      · exact hhead _ (List.mem_map_of_mem hmember)

/-- Whatever the order of the members, the object has some of them, in ascending
order. -/
theorem ofMembers_eq_object (members : List (String × Json)) :
    ∃ kept, ofMembers members = object kept ∧
      (kept.map Prod.fst).Pairwise (· < ·) ∧ ∀ member ∈ kept, member ∈ members := by
  have hfold : ∀ built : List (String × Json),
      (built.map Prod.fst).Pairwise (· < ·) →
      ∃ kept, members.foldl
          (fun built member => insertMember member.1 member.2 built) built = kept ∧
        (kept.map Prod.fst).Pairwise (· < ·) ∧
        ∀ member ∈ kept, member ∈ built ∨ member ∈ members := by
    induction members with
    | nil => exact fun built h => ⟨built, rfl, h, fun _ => .inl⟩
    | cons member rest ih =>
      intro built h
      obtain ⟨kept, hkept, hascending, hmembers⟩ :=
        ih _ (insertMember_ascending member.2 h)
      refine ⟨kept, hkept, hascending, fun other hother => ?_⟩
      rcases hmembers other hother with hother | hother
      · rcases mem_insertMember hother with rfl | hother
        · exact .inr List.mem_cons_self
        · exact .inl hother
      · exact .inr (List.mem_cons_of_mem member hother)
  obtain ⟨kept, hkept, hascending, hmembers⟩ := hfold [] .nil
  exact ⟨kept, congrArg object hkept, hascending, by simpa using hmembers⟩

theorem insertMember_last {key : String} (value : Json)
    {members : List (String × Json)} (h : ∀ member ∈ members, member.1 < key) :
    insertMember key value members = members ++ [(key, value)] := by
  induction members with
  | nil => rfl
  | cons member others ih =>
    obtain ⟨other, held⟩ := member
    have hless : other < key := h (other, held) (by simp)
    have hrest := ih fun member hm => h member (List.mem_cons_of_mem _ hm)
    rw [insertMember, if_neg (String.lt_asymm hless),
      if_neg (String.ne_of_lt hless).symm, hrest, List.cons_append]

/-- Members in ascending order are kept as they are given. -/
theorem ofMembers_ascending {members : List (String × Json)}
    (h : (members.map Prod.fst).Pairwise (· < ·)) :
    ofMembers members = object members := by
  have hfold : ∀ built, ((built ++ members).map Prod.fst).Pairwise (· < ·) →
      members.foldl (fun built member => insertMember member.1 member.2 built)
        built = built ++ members := by
    clear h
    induction members with
    | nil => simp
    | cons member others ih =>
      intro built hascending
      have hless : ∀ other ∈ built, other.1 < member.1 := by
        rw [List.map_append, List.pairwise_append] at hascending
        exact fun other hm =>
          hascending.2.2 _ (List.mem_map_of_mem hm) _ (by simp)
      rw [List.foldl_cons, insertMember_last member.2 hless, ih]
      · simp
      · simpa using hascending
  rw [ofMembers, hfold [] (by simpa using h), List.nil_append]

end Compliance.Json
