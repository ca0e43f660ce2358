import TelegramDrive.Crypto.Vault
import TelegramDrive.Library.KeyedUpdates

namespace TelegramDrive
namespace Crypto

/-!
# Reading a payload back

The payload lists the profiles in the order of their names, each with the length of its
name.  It is read back by position, and a repeated name or a byte too many is refused.
What the writer accepts is exactly what the reader accepts, so the material of a payload
is the one that was written.
-/

abbrev Profiles := Std.TreeMap String SecretKey

/-! ## The reader -/

/-- The number that bytes stand for, the least significant first. -/
def fromLeBytes : Bytes -> Nat
  | [] => 0
  | byte :: rest => byte.toNat + 256 * fromLeBytes rest

/-- The bytes of a key, of which there must be 32. -/
def secretKey? (bytes : Bytes) : Option SecretKey :=
  if enough : bytes.length = 32 then some ⟨bytes, enough⟩ else none

def truncatedError : CryptoError := ⟨.truncated, "Data truncated"⟩

/-- The loop over the profiles, and the check that nothing follows them. -/
def parseProfiles : Nat -> Bytes -> Profiles -> CryptoResult Profiles
  | 0, rest, profiles =>
    if rest = [] then .ok profiles else .error ⟨.headerInvalid, "Trailing bytes in vault payload"⟩
  | count + 1, bytes, profiles =>
    if bytes.length < 2 then .error truncatedError
    else
      let idLength := fromLeBytes (bytes.take 2)
      let rest := bytes.drop 2
      if idLength = 0 ∨ 128 < idLength then .error .wrongKeyOrCorrupt
      else if rest.length < idLength + 32 then .error truncatedError
      else
        match String.fromUTF8? ⟨(rest.take idLength).toArray⟩, secretKey? ((rest.drop idLength).take 32) with
        | some id, some key =>
          if id ∈ profiles then .error .wrongKeyOrCorrupt
          else parseProfiles count (rest.drop (idLength + 32)) (profiles.insert id key)
        | _, _ => .error .wrongKeyOrCorrupt

def parsePayload (payload : Bytes) : CryptoResult Material :=
  if payload.length < 48 ∨ payload.take 6 ≠ payloadMagic then .error .wrongKeyOrCorrupt
  else
    let createdAt := Int.bmod (fromLeBytes ((payload.drop 6).take 8)) (2 ^ 64)
    match secretKey? ((payload.drop 14).take 32) with
    | none => .error .wrongKeyOrCorrupt
    | some vaultKey =>
      let count := fromLeBytes ((payload.drop 46).take 2)
      if 64 < count then .error .wrongKeyOrCorrupt
      else do
        let profiles <- parseProfiles count (payload.drop 48) ∅
        return ⟨createdAt, vaultKey, profiles⟩

/-! ## What the writer accepts -/

/-- The bytes of a profile's name. -/
def idBytes (id : String) : Bytes := id.toUTF8.data.toList

def ValidProfileId (id : String) : Prop := idBytes id ≠ [] ∧ (idBytes id).length ≤ 128

instance (id : String) : Decidable (ValidProfileId id) := inferInstanceAs (Decidable (_ ∧ _))

def profileBytes (profile : String × SecretKey) : Bytes :=
  toLeBytes 2 (idBytes profile.1).length ++ idBytes profile.1 ++ profile.2.bytes

/-- At most so many profiles, all of them with names that can be written. -/
structure Serializable (profiles : Profiles) : Prop where
  few : profiles.size ≤ 64
  valid : forall id, id ∈ profiles -> ValidProfileId id

theorem serializeProfile_ok {profile : String × SecretKey} (valid : ValidProfileId profile.1) :
    serializeProfile profile = .ok (profileBytes profile) := by
  unfold serializeProfile
  have allowed : ¬ ((idBytes profile.1).isEmpty = true ∨ 128 < (idBytes profile.1).length) := by
    rintro (empty | long)
    · exact valid.1 (List.isEmpty_iff.mp empty)
    · exact absurd valid.2 (Nat.not_le_of_lt long)
  exact if_neg allowed

theorem serializeProfile_valid {profile : String × SecretKey} {bytes : Bytes}
    (serialized : serializeProfile profile = .ok bytes) : ValidProfileId profile.1 := by
  unfold serializeProfile at serialized
  dsimp only at serialized
  split at serialized
  · cases serialized
  next allowed =>
    constructor
    · intro empty
      exact allowed (Or.inl (List.isEmpty_iff.mpr empty))
    · exact Nat.le_of_not_lt fun long => allowed (Or.inr long)

theorem serializeProfiles_ok {listed : List (String × SecretKey)}
    (valid : forall profile, profile ∈ listed -> ValidProfileId profile.1) :
    listed.mapM serializeProfile = .ok (listed.map profileBytes) := by
  induction listed with
  | nil => rfl
  | cons profile listed ih =>
    rw [List.mapM_cons, serializeProfile_ok (valid profile List.mem_cons_self),
      ih fun other member => valid other (List.mem_cons_of_mem _ member)]
    rfl

theorem serializeProfiles_valid {listed : List (String × SecretKey)} {all : List Bytes}
    (serialized : listed.mapM serializeProfile = .ok all) :
    forall profile, profile ∈ listed -> ValidProfileId profile.1 := by
  induction listed generalizing all with
  | nil =>
    intro profile member
    cases member
  | cons first listed ih =>
    rw [List.mapM_cons] at serialized
    rcases bind_eq_ok serialized with ⟨bytes, one, others⟩
    rcases bind_eq_ok others with ⟨rest, later, -⟩
    intro profile member
    rcases List.mem_cons.mp member with rfl | inside
    · exact serializeProfile_valid one
    · exact ih later profile inside

theorem mem_profiles {profiles : Profiles} {id : String} {key : SecretKey} :
    (id, key) ∈ profiles.toList ↔ profiles[id]? = some key :=
  Std.TreeMap.mem_toList_iff_getElem?_eq_some

/-- The payload of material that can be written. -/
def payloadOf (material : Material) : Bytes :=
  payloadMagic ++ (toLeBytes 8 (material.createdAt % 2 ^ 64).toNat ++
    (material.vaultKey.bytes ++ (toLeBytes 2 material.profiles.size ++
      (material.profiles.toList.map profileBytes).flatten)))

theorem serializePayload_of (material : Material) (serializable : Serializable material.profiles) :
    serializePayload material = .ok (payloadOf material) := by
  have valid : forall profile, profile ∈ material.profiles.toList -> ValidProfileId profile.1 := by
    rintro ⟨id, key⟩ member
    apply serializable.valid
    rw [Std.TreeMap.mem_iff_isSome_getElem?, mem_profiles.mp member]
    rfl
  unfold serializePayload
  rw [if_neg (Nat.not_lt_of_le serializable.few), serializeProfiles_ok valid]
  rfl

theorem serializable_of {material : Material} {payload : Bytes}
    (serialized : serializePayload material = .ok payload) : Serializable material.profiles := by
  unfold serializePayload at serialized
  split at serialized
  · cases serialized
  next few =>
    rcases bind_eq_ok serialized with ⟨all, listed, -⟩
    refine ⟨Nat.le_of_not_lt few, ?_⟩
    intro id member
    have there := serializeProfiles_valid listed (id, material.profiles[id]) ?_
    · exact there
    · exact mem_profiles.mpr (Std.TreeMap.getElem?_eq_some_getElem member)

/-! ## The reader undoes the writer -/

theorem fromLeBytes_toLeBytes (width value : Nat) (bound : value < 256 ^ width) :
    fromLeBytes (toLeBytes width value) = value := by
  induction width generalizing value with
  | zero =>
    rw [Nat.pow_zero, Nat.lt_one_iff] at bound
    rw [bound]
    rfl
  | succ width ih =>
    have smaller : value / 256 < 256 ^ width := by
      rw [Nat.pow_succ] at bound
      exact Nat.div_lt_of_lt_mul (by rw [Nat.mul_comm]; exact bound)
    rw [toLeBytes, fromLeBytes, ih _ smaller, UInt8.toNat_ofNat']
    omega

theorem fromUTF8?_idBytes (id : String) : String.fromUTF8? ⟨(idBytes id).toArray⟩ = some id := by
  unfold idBytes
  rw [Array.toArray_toList]
  show String.fromUTF8? id.toByteArray = some id
  unfold String.fromUTF8?
  rw [dif_pos id.isValidUTF8]
  rfl

theorem secretKey?_bytes (key : SecretKey) : secretKey? key.bytes = some key := by
  unfold secretKey?
  rw [dif_pos key.length_eq]

/-- Inserting profiles, one name at a time. -/
def profileInserts : KeyedUpdates Profiles String (Option SecretKey) (String × SecretKey) where
  look profiles id := profiles[id]?
  key profile := profile.1
  effect profile _ := some profile.2
  apply profiles profile := profiles.insert profile.1 profile.2
  look_apply_same profiles profile := Std.TreeMap.getElem?_insert_self
  look_apply_other profiles profile other different := by
    rw [Std.TreeMap.getElem?_insert, if_neg]
    intro same
    exact different (Std.LawfulEqCmp.eq_of_compare same)

/-- Profiles are read in the order in which they were written. -/
theorem parseProfiles_written (listed : List (String × SecretKey)) (profiles : Profiles)
    (valid : forall profile, profile ∈ listed -> ValidProfileId profile.1)
    (distinct : (listed.map Prod.fst).Nodup) (absent : forall profile, profile ∈ listed -> profile.1 ∉ profiles) :
    parseProfiles listed.length (listed.map profileBytes).flatten profiles =
      .ok (profileInserts.applyAll profiles listed) := by
  induction listed generalizing profiles with
  | nil => rfl
  | cons profile listed ih =>
    rcases valid profile List.mem_cons_self with ⟨named, short⟩
    have size : (toLeBytes 2 (idBytes profile.1).length).length = 2 := toLeBytes_length 2 _
    have idLength : fromLeBytes (toLeBytes 2 (idBytes profile.1).length) = (idBytes profile.1).length :=
      fromLeBytes_toLeBytes 2 _ (Nat.lt_of_le_of_lt short (by decide))
    have positive : (idBytes profile.1).length ≠ 0 := fun zero => named (List.length_eq_zero_iff.mp zero)
    rw [List.map_cons, List.nodup_cons] at distinct
    rw [List.length_cons, List.map_cons, List.flatten_cons]
    unfold profileBytes
    rw [List.append_assoc, List.append_assoc, parseProfiles]
    rw [if_neg (by rw [List.length_append, size]; omega)]
    dsimp only
    rw [List.take_left' size, List.drop_left' size, idLength, if_neg (by omega),
      if_neg (by rw [List.length_append, List.length_append, profile.2.length_eq]; omega),
      List.take_left' rfl, fromUTF8?_idBytes, List.drop_left' rfl, List.take_left' profile.2.length_eq,
      secretKey?_bytes]
    dsimp only
    rw [if_neg (absent profile List.mem_cons_self), ← List.drop_drop, List.drop_left' rfl,
      List.drop_left' profile.2.length_eq]
    refine ih _ (fun other member => valid other (List.mem_cons_of_mem _ member)) distinct.2 ?_
    intro other member inside
    rcases Std.TreeMap.mem_insert.mp inside with same | before
    · have equal : profile.1 = other.1 := Std.LawfulEqCmp.eq_of_compare same
      exact distinct.1 (equal ▸ List.mem_map_of_mem member)
    · exact absent other (List.mem_cons_of_mem _ member) before

/-- The same material: maps are compared by what they hold. -/
structure Material.Same (one two : Material) : Prop where
  createdAt : one.createdAt = two.createdAt
  vaultKey : one.vaultKey = two.vaultKey
  profiles : one.profiles.Equiv two.profiles

/-- Inserting the profiles of a map gives the map. -/
theorem applyAll_toList (profiles : Profiles) :
    (profileInserts.applyAll ∅ profiles.toList).Equiv profiles := by
  apply Std.TreeMap.Equiv.of_forall_constGet?_eq
  intro id
  have distinct : (profiles.toList.map Prod.fst).Nodup := by
    rw [Std.TreeMap.map_fst_toList_eq_keys]
    exact Std.TreeMap.nodup_keys
  cases found : profiles[id]? with
  | some key =>
    exact profileInserts.look_applyAll_of_mem ∅ distinct (mem_profiles.mpr found)
  | none =>
    refine (profileInserts.look_applyAll_of_absent ∅ ?_).trans Std.TreeMap.getElem?_emptyc
    rintro ⟨other, key⟩ member same
    have there := mem_profiles.mp member
    rw [show other = id from same, found] at there
    cases there

/-- A time as the source stores it, in 64 bits with a sign. -/
def IsI64 (value : Int) : Prop := -2 ^ 63 ≤ value ∧ value < 2 ^ 63

instance (value : Int) : Decidable (IsI64 value) := inferInstanceAs (Decidable (_ ∧ _))

theorem bmod_of_isI64 {value : Int} (fits : IsI64 value) :
    Int.bmod (fromLeBytes (toLeBytes 8 (value % 2 ^ 64).toNat) : Nat) (2 ^ 64) = value := by
  rcases fits with ⟨lower, upper⟩
  have bound : (value % 2 ^ 64).toNat < 256 ^ 8 := by omega
  rw [fromLeBytes_toLeBytes 8 _ bound, Int.toNat_of_nonneg (Int.emod_nonneg _ (by decide))]
  rw [show ((2 : Int) ^ 64) = ((2 ^ 64 : Nat) : Int) from rfl, Int.emod_bmod]
  apply Int.bmod_eq_of_le <;> omega

theorem payload_positions {dates key count rest : Bytes} (eight : dates.length = 8) (keys : key.length = 32)
    (two : count.length = 2) :
    let payload := payloadMagic ++ (dates ++ (key ++ (count ++ rest)))
    48 ≤ payload.length ∧ payload.take 6 = payloadMagic ∧ (payload.drop 6).take 8 = dates ∧
      (payload.drop 14).take 32 = key ∧ (payload.drop 46).take 2 = count ∧ payload.drop 48 = rest := by
  dsimp only
  have six : (payloadMagic ++ (dates ++ (key ++ (count ++ rest)))).drop 6 = dates ++ (key ++ (count ++ rest)) :=
    List.drop_left' rfl
  have fourteen : (payloadMagic ++ (dates ++ (key ++ (count ++ rest)))).drop 14 = key ++ (count ++ rest) := by
    rw [show 14 = 6 + 8 from rfl, ← List.drop_drop, six, List.drop_left' eight]
  have fortySix : (payloadMagic ++ (dates ++ (key ++ (count ++ rest)))).drop 46 = count ++ rest := by
    rw [show 46 = 14 + 32 from rfl, ← List.drop_drop, fourteen, List.drop_left' keys]
  refine ⟨?_, List.take_left' rfl, ?_, ?_, ?_, ?_⟩
  · have magic : payloadMagic.length = 6 := rfl
    rw [List.length_append, List.length_append, List.length_append, List.length_append, magic, eight, keys, two]
    omega
  · rw [six, List.take_left' eight]
  · rw [fourteen, List.take_left' keys]
  · rw [fortySix, List.take_left' two]
  · rw [show 48 = 46 + 2 from rfl, ← List.drop_drop, fortySix, List.drop_left' two]

/-- The profiles of a map are read back from what is written of them. -/
theorem parseProfiles_toList {profiles : Profiles} (serializable : Serializable profiles) :
    parseProfiles profiles.size (profiles.toList.map profileBytes).flatten ∅ =
      .ok (profileInserts.applyAll ∅ profiles.toList) := by
  rw [← Std.TreeMap.length_toList]
  refine parseProfiles_written _ ∅ ?_ ?_ ?_
  · rintro ⟨id, key⟩ member
    apply serializable.valid
    rw [Std.TreeMap.mem_iff_isSome_getElem?, mem_profiles.mp member]
    rfl
  · rw [Std.TreeMap.map_fst_toList_eq_keys]
    exact Std.TreeMap.nodup_keys
  · intro profile _
    exact Std.TreeMap.not_mem_emptyc

/-- What is written is read back. -/
theorem parsePayload_serialized {material : Material} {payload : Bytes} (fits : IsI64 material.createdAt)
    (serialized : serializePayload material = .ok payload) :
    Exists fun parsed => parsePayload payload = .ok parsed ∧ parsed.Same material := by
  have serializable := serializable_of serialized
  rw [serializePayload_of material serializable, Except.ok.injEq] at serialized
  have count : fromLeBytes (toLeBytes 2 material.profiles.size) = material.profiles.size :=
    fromLeBytes_toLeBytes 2 _ (Nat.lt_of_le_of_lt serializable.few (by decide))
  have positions := @payload_positions _ _ _ (material.profiles.toList.map profileBytes).flatten
    (toLeBytes_length 8 (material.createdAt % 2 ^ 64).toNat) material.vaultKey.length_eq
    (toLeBytes_length 2 material.profiles.size)
  unfold payloadOf at serialized
  rw [serialized] at positions
  rcases positions with ⟨long, magic, dates, key, counts, profiles⟩
  refine ⟨⟨material.createdAt, material.vaultKey, profileInserts.applyAll ∅ material.profiles.toList⟩, ?_,
    rfl, rfl, applyAll_toList _⟩
  have accepted : ¬ (payload.length < 48 ∨ payload.take 6 ≠ payloadMagic) := by
    rintro (short | other)
    · exact absurd long (Nat.not_le_of_lt short)
    · exact other magic
  unfold parsePayload
  rw [if_neg accepted]
  dsimp only
  rw [dates, bmod_of_isI64 fits, key, secretKey?_bytes]
  dsimp only
  rw [counts, count, if_neg (Nat.not_lt_of_le serializable.few), profiles, parseProfiles_toList serializable]
  rfl

end Crypto
end TelegramDrive
