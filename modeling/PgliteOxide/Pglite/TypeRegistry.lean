import PgliteOxide.Pglite.Codecs

/-!
# The default registry

The parsers and serializers that a client starts with: one codec for each scalar type that has
one, and the array types of the catalog over them.
-/

namespace PgliteOxide.Pglite

open Lib Protocol

/-! ## OIDs -/

def oidBool : Int32 := 16
def oidBytea : Int32 := 17
def oidChar : Int32 := 18
def oidInt8 : Int32 := 20
def oidInt2 : Int32 := 21
def oidInt4 : Int32 := 23
def oidOid : Int32 := 26
def oidJson : Int32 := 114
def oidFloat4 : Int32 := 700
def oidFloat8 : Int32 := 701
def oidDate : Int32 := 1082
def oidTimestamp : Int32 := 1114
def oidTimestamptz : Int32 := 1184
def oidNumeric : Int32 := 1700
def oidUuid : Int32 := 2950
def oidJsonb : Int32 := 3802

/-- `BUILTIN_ARRAY_TYPES`. -/
def builtinArrayTypes : List ArrayTypeInfo :=
  [⟨16, 1000, ','⟩, ⟨17, 1001, ','⟩, ⟨18, 1002, ','⟩, ⟨19, 1003, ','⟩, ⟨20, 1016, ','⟩,
    ⟨21, 1005, ','⟩, ⟨22, 1006, ','⟩, ⟨23, 1007, ','⟩, ⟨24, 1008, ','⟩, ⟨25, 1009, ','⟩,
    ⟨26, 1028, ','⟩, ⟨27, 1010, ','⟩, ⟨28, 1011, ','⟩, ⟨29, 1012, ','⟩, ⟨30, 1013, ','⟩,
    ⟨114, 199, ','⟩, ⟨142, 143, ','⟩, ⟨600, 1017, ','⟩, ⟨601, 1018, ','⟩, ⟨602, 1019, ','⟩,
    ⟨603, 1020, ';'⟩, ⟨604, 1027, ','⟩, ⟨628, 629, ','⟩, ⟨700, 1021, ','⟩, ⟨701, 1022, ','⟩,
    ⟨718, 719, ','⟩, ⟨790, 791, ','⟩, ⟨829, 1040, ','⟩, ⟨869, 1041, ','⟩, ⟨650, 651, ','⟩,
    ⟨774, 775, ','⟩, ⟨1033, 1034, ','⟩, ⟨1042, 1014, ','⟩, ⟨1043, 1015, ','⟩, ⟨1082, 1182, ','⟩,
    ⟨1083, 1183, ','⟩, ⟨1114, 1115, ','⟩, ⟨1184, 1185, ','⟩, ⟨1186, 1187, ','⟩, ⟨1266, 1270, ','⟩,
    ⟨1560, 1561, ','⟩, ⟨1562, 1563, ','⟩, ⟨1700, 1231, ','⟩, ⟨1790, 2201, ','⟩, ⟨2202, 2207, ','⟩,
    ⟨2203, 2208, ','⟩, ⟨2204, 2209, ','⟩, ⟨2205, 2210, ','⟩, ⟨4191, 4192, ','⟩, ⟨2206, 2211, ','⟩,
    ⟨4096, 4097, ','⟩, ⟨4089, 4090, ','⟩, ⟨2950, 2951, ','⟩, ⟨3220, 3221, ','⟩, ⟨3614, 3643, ','⟩,
    ⟨3642, 3644, ','⟩, ⟨3615, 3645, ','⟩, ⟨3734, 3735, ','⟩, ⟨3769, 3770, ','⟩, ⟨3802, 3807, ','⟩,
    ⟨4072, 4073, ','⟩, ⟨2970, 2949, ','⟩, ⟨5038, 5039, ','⟩, ⟨3904, 3905, ','⟩, ⟨3906, 3907, ','⟩,
    ⟨3908, 3909, ','⟩, ⟨3910, 3911, ','⟩, ⟨3912, 3913, ','⟩, ⟨3926, 3927, ','⟩, ⟨4451, 6150, ','⟩,
    ⟨4532, 6151, ','⟩, ⟨4533, 6152, ','⟩, ⟨4534, 6153, ','⟩, ⟨4535, 6155, ','⟩, ⟨4536, 6157, ','⟩,
    ⟨2275, 1263, ','⟩]

section Defaults

variable (lib : TextLib)

/-- The scalar types of `build_default_parsers`. -/
def scalarParsers : ParserMap :=
  let map : ParserMap := []
  let map := OidMap.insert map oidText (fun value _ => .ok (.string value))
  let map := OidMap.insert map oidChar (fun value _ => .ok (.string value))
  let map := OidMap.insert map oidInt2 (fun value _ => parseInt value)
  let map := OidMap.insert map oidInt4 (fun value _ => parseInt value)
  let map := OidMap.insert map oidInt8 (fun value _ => parseBigint value)
  let map := OidMap.insert map oidOid (fun value _ => parseInt value)
  let map := OidMap.insert map oidNumeric (fun value _ => .ok (parseNumeric lib value))
  let map := OidMap.insert map oidFloat4 (fun value _ => .ok (parseFloat lib value))
  let map := OidMap.insert map oidFloat8 (fun value _ => .ok (parseFloat lib value))
  let map := OidMap.insert map oidBool (fun value _ => .ok (.bool (value = "t")))
  let map := OidMap.insert map oidJson (fun value _ => .ok (parseJson lib value))
  let map := OidMap.insert map oidJsonb (fun value _ => .ok (parseJson lib value))
  let map := OidMap.insert map oidBytea (fun value _ => .ok (parseBytea lib value))
  let map := OidMap.insert map oidUuid (fun value _ => .ok (.string value))
  let map := OidMap.insert map oidTimestamp (fun value _ => .ok (.string value))
  let map := OidMap.insert map oidTimestamptz (fun value _ => .ok (.string value))
  let map := OidMap.insert map oidDate (fun value _ => .ok (.string value))
  map

/-- The scalar types of `build_default_serializers`. -/
def scalarSerializers : SerializerMap :=
  let map : SerializerMap := []
  let map := OidMap.insert map oidText serializeString
  let map := OidMap.insert map oidChar serializeString
  let map := OidMap.insert map oidInt2 serializeNumber
  let map := OidMap.insert map oidInt4 serializeNumber
  let map := OidMap.insert map oidInt8 serializeNumber
  let map := OidMap.insert map oidOid serializeNumber
  let map := OidMap.insert map oidNumeric serializeNumber
  let map := OidMap.insert map oidFloat4 serializeNumber
  let map := OidMap.insert map oidFloat8 serializeNumber
  let map := OidMap.insert map oidBool serializeBool
  let map := OidMap.insert map oidJson serializeJson
  let map := OidMap.insert map oidJsonb serializeJson
  let map := OidMap.insert map oidBytea (serializeBytea lib)
  let map := OidMap.insert map oidUuid serializeString
  let map := OidMap.insert map oidTimestamp serializeString
  let map := OidMap.insert map oidTimestamptz serializeString
  let map := OidMap.insert map oidDate serializeString
  map

/-- `build_default_parsers`, with the loop of `register_builtin_array_parsers`. -/
def buildDefaultParsers : ParserMap := builtinArrayTypes.foldl registerArrayParser (scalarParsers lib)

/-- `build_default_serializers`, with the loop of `register_builtin_array_serializers`. -/
def buildDefaultSerializers : SerializerMap :=
  builtinArrayTypes.foldl registerArraySerializer (scalarSerializers lib)

end Defaults

/-! ## Codecs by type -/

/-- The kinds of codec. -/
inductive Codec where
  | text
  | int
  | bigint
  | numeric
  | float
  | bool
  | json
  | bytea
deriving DecidableEq

namespace Codec

def parse (lib : TextLib) : Codec → TypeParser
  | text => fun value _ => .ok (.string value)
  | int => fun value _ => parseInt value
  | bigint => fun value _ => parseBigint value
  | numeric => fun value _ => .ok (parseNumeric lib value)
  | float => fun value _ => .ok (parseFloat lib value)
  | bool => fun value _ => .ok (.bool (value = "t"))
  | json => fun value _ => .ok (parseJson lib value)
  | bytea => fun value _ => .ok (parseBytea lib value)

def serialize (lib : TextLib) : Codec → Serializer
  | text => serializeString
  | int | bigint | numeric | float => serializeNumber
  | bool => serializeBool
  | json => serializeJson
  | bytea => serializeBytea lib

end Codec

/-- The codecs of the scalar types. -/
def scalarCodecs : OidMap Codec :=
  [(oidDate, .text), (oidTimestamptz, .text), (oidTimestamp, .text), (oidUuid, .text),
    (oidBytea, .bytea), (oidJsonb, .json), (oidJson, .json), (oidBool, .bool),
    (oidFloat8, .float), (oidFloat4, .float), (oidNumeric, .numeric), (oidOid, .int),
    (oidInt8, .bigint), (oidInt4, .int), (oidInt2, .int), (oidChar, .text), (oidText, .text)]

lemma OidMap.get_map {α β : Type} (f : α → β) (map : OidMap α) (oid : Int32) :
    OidMap.get (map.map fun entry => (entry.1, f entry.2)) oid = (map.get oid).map f := by
  unfold OidMap.get
  induction map with
  | nil => rfl
  | cons entry map ih =>
    obtain ⟨key, a⟩ := entry
    rw [List.map_cons, List.lookup_cons, List.lookup_cons, ih]
    cases oid == key <;> rfl

lemma scalarParsers_get (lib : TextLib) (oid : Int32) :
    (scalarParsers lib).get oid = (scalarCodecs.get oid).map (Codec.parse lib) :=
  OidMap.get_map (Codec.parse lib) scalarCodecs oid

lemma scalarSerializers_get (lib : TextLib) (oid : Int32) :
    (scalarSerializers lib).get oid = (scalarCodecs.get oid).map (Codec.serialize lib) :=
  OidMap.get_map (Codec.serialize lib) scalarCodecs oid

/-! ## Registering many array types -/

section Register

variable {α : Type} (f : ArrayTypeInfo → Option α → α)

lemma OidMap.get_insert (map : OidMap α) (key oid : Int32) (a : α) :
    (map.insert key a).get oid = if oid = key then some a else map.get oid := by
  unfold OidMap.insert OidMap.get
  rw [List.lookup_cons]
  by_cases h : oid = key
  · rw [h, beq_self_eq_true, if_pos rfl]
  · rw [beq_eq_false_iff_ne.mpr h, if_neg h]

/-- What is not registered stays as it was. -/
lemma get_foldl_of_notMem {infos : List ArrayTypeInfo} {oid : Int32}
    (h : oid ∉ infos.map ArrayTypeInfo.arrayOid) (map : OidMap α) :
    (infos.foldl (fun map info => map.insert info.arrayOid (f info (map.get info.elementOid)))
      map).get oid = map.get oid := by
  induction infos generalizing map with
  | nil => rfl
  | cons info infos ih =>
    rw [List.map_cons, List.mem_cons, not_or] at h
    rw [List.foldl_cons, ih h.2, OidMap.get_insert, if_neg h.1]

/-- Array types over types that are no array types among them are registered over the codecs of
their elements. -/
lemma get_foldl_of_mem {infos : List ArrayTypeInfo}
    (hnodup : (infos.map ArrayTypeInfo.arrayOid).Nodup)
    (hflat : ∀ info ∈ infos, info.elementOid ∉ infos.map ArrayTypeInfo.arrayOid)
    (map : OidMap α) {info : ArrayTypeInfo} (h : info ∈ infos) :
    (infos.foldl (fun map info => map.insert info.arrayOid (f info (map.get info.elementOid)))
      map).get info.arrayOid = some (f info (map.get info.elementOid)) := by
  induction infos generalizing map with
  | nil => cases h
  | cons first infos ih =>
    rw [List.map_cons, List.nodup_cons] at hnodup
    rw [List.foldl_cons]
    rcases List.mem_cons.mp h with rfl | h
    · rw [get_foldl_of_notMem f hnodup.1, OidMap.get_insert, if_pos rfl]
    · have hne : info.elementOid ≠ first.arrayOid := fun heq =>
        hflat info (List.mem_cons_of_mem _ h) (heq ▸ List.mem_cons_self)
      rw [ih hnodup.2 (fun other hother hmem =>
          hflat other (List.mem_cons_of_mem _ hother) (List.mem_cons_of_mem _ hmem)) _ h,
        OidMap.get_insert, if_neg hne]

end Register

lemma builtinArrayTypes_nodup : (builtinArrayTypes.map ArrayTypeInfo.arrayOid).Nodup := by
  decide +kernel

lemma builtinArrayTypes_flat : ∀ info ∈ builtinArrayTypes,
    info.elementOid ∉ builtinArrayTypes.map ArrayTypeInfo.arrayOid := by
  decide +kernel

/-- **The array types of the catalog** are read and written through the codecs of their elements. -/
theorem buildDefaults_get (lib : TextLib) {info : ArrayTypeInfo} (h : info ∈ builtinArrayTypes) :
    (buildDefaultParsers lib).get info.arrayOid = some (fun text _ =>
      parseArrayText text ((scalarCodecs.get info.elementOid).map (Codec.parse lib))
        info.elementOid info.delimiter) ∧
    (buildDefaultSerializers lib).get info.arrayOid = some (fun value =>
      serializeArrayValue ((scalarCodecs.get info.elementOid).map (Codec.serialize lib))
        info.delimiter value) := by
  have hparser := get_foldl_of_mem (fun info (parser : Option TypeParser) text _ =>
    parseArrayText text parser info.elementOid info.delimiter) builtinArrayTypes_nodup
    builtinArrayTypes_flat (scalarParsers lib) h
  have hserializer := get_foldl_of_mem (fun info (serializer : Option Serializer) value =>
    serializeArrayValue serializer info.delimiter value) builtinArrayTypes_nodup
    builtinArrayTypes_flat (scalarSerializers lib) h
  rw [scalarParsers_get] at hparser
  rw [scalarSerializers_get] at hserializer
  exact ⟨hparser, hserializer⟩

end PgliteOxide.Pglite
