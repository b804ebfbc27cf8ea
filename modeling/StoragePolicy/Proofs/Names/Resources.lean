import StoragePolicy.Proofs.Names.Addresses
import StoragePolicy.Resource

/-!
# The Spellings of a Resource

A resource is written in parts with separators between them, and the names of
objects and groups may hold the separators. This does no harm, since each of
them is the last part, and what stands before a separator never holds its first
character: bucket names have no slash and addresses no colon. Each reader below
is therefore settled by one equivalence, in which the text is put together from
its parts and not taken apart.

What is read back is exactly what is well named. The reader measures a bucket
name by its octets, while the rules speak of characters; for names that keep to
the rules the two are the same, and a name with any other character is refused
already for that character.

Only the owner of a group has more than one spelling, so a text that was read is
the written form of its resource up to the case of that address.

Whether a resource is well named does not matter for how it is written, and
badly named resources can indeed be written alike, such as an object in a
bucket whose name has a slash. Being read back is more than being told apart,
and so resources that were read are written differently.

## Main definitions

* `BucketName`: The rules for bucket names.
* `Resource.WellNamed`: The names that reading lets through.
* `Resource.Spells`: A spelling of the resource.
* `Resource.Parsed`: A resource that was read from a text.

## Theorems

* `isBucketName_iff`: The check of bucket names is that of the rules.
* `Resource.read_eq_ok_iff`: What is read, and from which texts.
* `Resource.text_injective`: Resources that were read are written differently.
* `Resource.names_read`: What reading a resource is.
-/

namespace StoragePolicy

open Text

/-! ## Bucket names -/

/-- The rules for bucket names: three to sixty-three lower-case letters, digits
    and hyphens, of which the first and the last are no hyphens. -/
structure BucketName (name : List Char) : Prop where
  length : 3 ≤ name.length ∧ name.length ≤ 63
  chars : ∀ c ∈ name, ('a' ≤ c ∧ c ≤ 'z') ∨ ('0' ≤ c ∧ c ≤ '9') ∨ c = '-'
  first : name.head? ≠ some '-'
  last : name.getLast? ≠ some '-'

theorem isBucketChar_iff {c : Char} :
    isBucketChar c = true ↔ ('a' ≤ c ∧ c ≤ 'z') ∨ ('0' ≤ c ∧ c ≤ '9') ∨ c = '-' := by
  simp only [isBucketChar, Bool.or_eq_true, Bool.and_eq_true, decide_eq_true_eq, beq_iff_eq,
    or_assoc]

theorem toNat_lt_of_isBucketChar {c : Char} (h : isBucketChar c = true) : c.toNat < 0x80 := by
  have hz : 'z'.toNat = 122 := rfl
  have hnine : '9'.toNat = 57 := rfl
  rcases isBucketChar_iff.mp h with ⟨-, hle⟩ | ⟨-, hle⟩ | rfl
  · rw [Char.le_def, UInt32.le_iff_toNat_le] at hle
    change c.toNat ≤ 'z'.toNat at hle
    omega
  · rw [Char.le_def, UInt32.le_iff_toNat_le] at hle
    change c.toNat ≤ '9'.toNat at hle
    omega
  · decide

/-- The check of a bucket name measures octets, and yet it is that of the rules.
    All the characters it permits are of one octet. -/
theorem isBucketName_iff {name : List Char} : isBucketName name = true ↔ BucketName name := by
  -- With the right characters, octets and characters are equally many.
  have hlength : (∀ c ∈ name, isBucketChar c = true) →
      (utf8Chars name).length = name.length :=
    fun hchars => length_utf8Chars_of_lt fun c hc => toNat_lt_of_isBucketChar (hchars c hc)
  simp only [isBucketName, Bool.and_eq_true, decide_eq_true_eq, List.all_eq_true, bne_iff_ne]
  constructor
  · rintro ⟨⟨⟨hsize, hchars⟩, hfirst⟩, hlast⟩
    rw [hlength hchars] at hsize
    exact ⟨hsize, fun c hc => isBucketChar_iff.mp (hchars c hc), hfirst, hlast⟩
  · intro h
    have hchars : ∀ c ∈ name, isBucketChar c = true :=
      fun c hc => isBucketChar_iff.mpr (h.chars c hc)
    rw [hlength hchars]
    exact ⟨⟨⟨h.length, hchars⟩, h.first⟩, h.last⟩

/-- A bucket name has no slash, so the first slash of an object ends it. -/
theorem BucketName.slash_not_mem {name : List Char} (h : BucketName name) : '/' ∉ name := by
  intro hmem
  have hchar := isBucketChar_iff.mpr (h.chars '/' hmem)
  exact absurd hchar (by decide)

namespace Resource

/-- The names of the resource are such that it could have been read. A resource can
    be put together from any names, so this is not always so. -/
def WellNamed : Resource → Prop
  | .bucket name => BucketName name.toList
  | .object parent name => BucketName parent.toList ∧ name.toList ≠ []
  | .group _ name => name.toList ≠ []

/-- The text is a spelling of the resource. The owner of a group may be spelled
    as any address may, and all else stands as it is written. -/
def Spells : Resource → List Char → Prop
  | .bucket name, s => s = (bucket name).chars
  | .object parent name, s => s = (object parent name).chars
  | .group owner name, s => ∃ spelling, owner.Spells spelling ∧
      s = marker ++ 'g' :: ':' :: spelling ++ ':' :: ':' :: name.toList

/-- The resource was read from a text. -/
def Parsed (r : Resource) : Prop := ∃ s, parse s = .ok r

/-! ## The kinds one by one -/

/-- What follows the kind goes to the reader of that kind. -/
theorem read_kind (kind : Char) (hkind : kind ≠ ':') (rest : List Char) :
    read (marker ++ kind :: ':' :: rest) =
      if kind = 'b' then readBucket rest
      else if kind = 'o' then readObject rest
      else if kind = 'g' then readGroup rest
      else .error (.unknownKind (String.ofList [kind])) := by
  have hmarker : after? marker (marker ++ kind :: ':' :: rest) = some (kind :: ':' :: rest) :=
    after?_eq_some_iff.mpr rfl
  have hcolon : ':' ∉ [kind] := by
    rw [List.mem_singleton]
    exact hkind.symm
  have hsplit : splitAtFirst? [':'] (kind :: ':' :: rest) = some ([kind], rest) :=
    splitAtFirst?_append rest hcolon
  simp only [read, hmarker, hsplit, List.cons.injEq, and_true]

/-- Nothing is read but what follows one of the three kinds. -/
theorem exists_kind_of_read {s : List Char} {r : Resource} (h : read s = .ok r) :
    ∃ kind rest, kind ∈ ['b', 'o', 'g'] ∧ s = marker ++ kind :: ':' :: rest := by
  cases hmarker : after? marker s with
  | none => simp only [read, hmarker, reduceCtorEq] at h
  | some rest =>
      cases hsplit : splitAtFirst? [':'] rest with
      | none => simp only [read, hmarker, hsplit, reduceCtorEq] at h
      | some parts =>
          rcases parts with ⟨kind, tail⟩
          simp only [read, hmarker, hsplit] at h
          have hs : s = marker ++ (kind ++ ':' :: tail) := by
            rw [after?_eq_some_iff.mp hmarker, append_of_splitAtFirst? hsplit, List.append_assoc]
            rfl
          -- Only the three letters are compared with, so the kind is one of them.
          by_cases hb : kind = ['b']
          · exact ⟨'b', tail, by decide, by rw [hs, hb]; rfl⟩
          · by_cases ho : kind = ['o']
            · exact ⟨'o', tail, by decide, by rw [hs, ho]; rfl⟩
            · by_cases hg : kind = ['g']
              · exact ⟨'g', tail, by decide, by rw [hs, hg]; rfl⟩
              · rw [if_neg hb, if_neg ho, if_neg hg] at h
                injection h

/-- Buckets and objects have a second colon behind their kind. -/
theorem readBucket_of_ne {s : List Char} (h : ∀ name, s ≠ ':' :: name) :
    readBucket s = .error .notBucket := by
  rw [readBucket]
  exact h

theorem readObject_of_ne {s : List Char} (h : ∀ path, s ≠ ':' :: path) :
    readObject s = .error .notObject := by
  rw [readObject]
  exact h

theorem readBucket_eq_ok_iff {s : List Char} {r : Resource} :
    readBucket s = .ok r ↔
      ∃ name : String, BucketName name.toList ∧ r = .bucket name ∧ s = ':' :: name.toList := by
  constructor
  · intro h
    by_cases hcolon : ∃ name, s = ':' :: name
    · rcases hcolon with ⟨name, rfl⟩
      rw [readBucket] at h
      by_cases hname : isBucketName name = true
      · rw [if_pos hname] at h
        injection h with h
        refine ⟨String.ofList name, ?_, h.symm, by rw [String.toList_ofList]⟩
        rw [String.toList_ofList]
        exact isBucketName_iff.mp hname
      · rw [if_neg hname] at h
        injection h
    · rw [readBucket_of_ne (not_exists.mp hcolon)] at h
      injection h
  · rintro ⟨name, hname, rfl, rfl⟩
    rw [readBucket, if_pos (isBucketName_iff.mpr hname), String.ofList_toList]

/-- An object is read from a colon, a bucket name, a slash and a name. -/
theorem readObject_eq_ok_iff {s : List Char} {r : Resource} :
    readObject s = .ok r ↔
      ∃ parent name : String, BucketName parent.toList ∧ name.toList ≠ [] ∧
        r = .object parent name ∧ s = ':' :: (parent.toList ++ '/' :: name.toList) := by
  constructor
  · intro h
    by_cases hcolon : ∃ path, s = ':' :: path
    · rcases hcolon with ⟨path, rfl⟩
      cases hsplit : splitAtFirst? ['/'] path with
      | none => simp only [readObject, hsplit, reduceCtorEq] at h
      | some parts =>
          rcases parts with ⟨parent, name⟩
          simp only [readObject, hsplit] at h
          by_cases hparent : isBucketName parent = true
          · by_cases hname : name = []
            · simp only [hparent, hname, Bool.not_true, Bool.false_eq_true, if_false,
                List.isEmpty_nil, if_true, reduceCtorEq] at h
            · have hempty : name.isEmpty = false := List.isEmpty_eq_false_iff.mpr hname
              simp only [hparent, hempty, Bool.not_true, Bool.false_eq_true, if_false,
                Except.ok.injEq] at h
              refine ⟨String.ofList parent, String.ofList name, ?_, ?_, h.symm, ?_⟩
              · rw [String.toList_ofList]
                exact isBucketName_iff.mp hparent
              · rwa [String.toList_ofList]
              · rw [append_of_splitAtFirst? hsplit, String.toList_ofList, String.toList_ofList,
                  List.append_assoc]
                rfl
          · simp only [hparent, Bool.not_false, if_true, reduceCtorEq] at h
    · rw [readObject_of_ne (not_exists.mp hcolon)] at h
      injection h
  · rintro ⟨parent, name, hparent, hname, rfl, rfl⟩
    -- The first slash ends the bucket name, wherever others stand in the object name.
    have hsplit : splitAtFirst? ['/'] (parent.toList ++ '/' :: name.toList) =
        some (parent.toList, name.toList) :=
      splitAtFirst?_append name.toList hparent.slash_not_mem
    have hempty : name.toList.isEmpty = false := List.isEmpty_eq_false_iff.mpr hname
    simp only [readObject, hsplit, isBucketName_iff.mpr hparent, hempty, Bool.not_true,
      Bool.false_eq_true, if_false, String.ofList_toList]

/-- A group is read from a spelling of its owner, two colons and a name. -/
theorem readGroup_eq_ok_iff {s : List Char} {r : Resource} :
    readGroup s = .ok r ↔
      ∃ (owner : Address) (name : String) (spelling : List Char), owner.Spells spelling ∧
        name.toList ≠ [] ∧ r = .group owner name ∧ s = spelling ++ ':' :: ':' :: name.toList := by
  constructor
  · intro h
    cases hsplit : splitAtFirst? [':', ':'] s with
    | none => simp only [readGroup, hsplit, reduceCtorEq] at h
    | some parts =>
        rcases parts with ⟨spelling, name⟩
        simp only [readGroup, hsplit] at h
        by_cases hname : name = []
        · simp only [hname, List.isEmpty_nil, if_true, reduceCtorEq] at h
        · have hempty : name.isEmpty = false := List.isEmpty_eq_false_iff.mpr hname
          cases hread : Address.read spelling with
          | error e => simp only [hempty, hread, Bool.false_eq_true, if_false, reduceCtorEq] at h
          | ok owner =>
              simp only [hempty, hread, Bool.false_eq_true, if_false, Except.ok.injEq] at h
              refine ⟨owner, String.ofList name, spelling, Address.read_eq_ok_iff.mp hread, ?_,
                h.symm, ?_⟩
              · rwa [String.toList_ofList]
              · rw [append_of_splitAtFirst? hsplit, String.toList_ofList, List.append_assoc]
                rfl
  · rintro ⟨owner, name, spelling, hspells, hname, rfl, rfl⟩
    -- The first two colons end the owner, wherever others stand in the group name.
    have hsplit : splitAtFirst? [':', ':'] (spelling ++ ':' :: ':' :: name.toList) =
        some (spelling, name.toList) :=
      splitAtFirst?_append name.toList hspells.colon_not_mem
    have hempty : name.toList.isEmpty = false := List.isEmpty_eq_false_iff.mpr hname
    simp only [readGroup, hsplit, hempty, Bool.false_eq_true, if_false,
      Address.read_eq_ok_iff.mpr hspells, String.ofList_toList]

/-! ## All kinds -/

/-- A resource is read from its spellings, if it is well named, and from nothing
    else. -/
theorem read_eq_ok_iff {s : List Char} {r : Resource} :
    read s = .ok r ↔ r.WellNamed ∧ r.Spells s := by
  constructor
  · intro h
    rcases exists_kind_of_read h with ⟨kind, rest, hkind, rfl⟩
    simp only [List.mem_cons, List.not_mem_nil, or_false] at hkind
    rcases hkind with rfl | rfl | rfl
    · rw [read_kind 'b' (by decide), if_pos rfl] at h
      rcases readBucket_eq_ok_iff.mp h with ⟨name, hname, rfl, rfl⟩
      exact ⟨hname, rfl⟩
    · rw [read_kind 'o' (by decide), if_neg (by decide), if_pos rfl] at h
      rcases readObject_eq_ok_iff.mp h with ⟨parent, name, hparent, hname, rfl, rfl⟩
      refine ⟨⟨hparent, hname⟩, ?_⟩
      rw [Spells, chars, List.append_assoc]
      rfl
    · rw [read_kind 'g' (by decide), if_neg (by decide), if_neg (by decide), if_pos rfl] at h
      rcases readGroup_eq_ok_iff.mp h with ⟨owner, name, spelling, hspells, hname, rfl, rfl⟩
      refine ⟨hname, spelling, hspells, ?_⟩
      rw [List.append_assoc]
      rfl
  -- The other way, each kind is written so that its own reader finds the parts.
  · rintro ⟨hnamed, hspells⟩
    cases r with
    | bucket name =>
        have hs : s = marker ++ 'b' :: ':' :: (':' :: name.toList) := hspells
        rw [hs, read_kind 'b' (by decide), if_pos rfl]
        exact readBucket_eq_ok_iff.mpr ⟨name, hnamed, rfl, rfl⟩
    | object parent name =>
        have hs : s = marker ++ 'o' :: ':' :: (':' :: (parent.toList ++ '/' :: name.toList)) := by
          rw [hspells, chars, List.append_assoc]
          rfl
        rw [hs, read_kind 'o' (by decide), if_neg (by decide), if_pos rfl]
        exact readObject_eq_ok_iff.mpr ⟨parent, name, hnamed.1, hnamed.2, rfl, rfl⟩
    | group owner name =>
        rcases hspells with ⟨spelling, howner, hs⟩
        rw [List.append_assoc] at hs
        have hs : s = marker ++ 'g' :: ':' :: (spelling ++ ':' :: ':' :: name.toList) := hs
        rw [hs, read_kind 'g' (by decide), if_neg (by decide), if_neg (by decide), if_pos rfl]
        exact readGroup_eq_ok_iff.mpr ⟨owner, name, spelling, howner, hnamed, rfl, rfl⟩

/-- The written form is a spelling itself. -/
theorem spells_chars (r : Resource) : r.Spells r.chars := by
  cases r with
  | bucket name => rfl
  | object parent name => rfl
  | group owner name => exact ⟨owner.chars, owner.spells_chars, rfl⟩

/-- The written form is read back exactly if the resource is well named. -/
theorem read_chars_iff {r : Resource} : read r.chars = .ok r ↔ r.WellNamed := by
  rw [read_eq_ok_iff]
  exact and_iff_left r.spells_chars

/-! ## Texts -/

theorem parse_eq_ok_iff {s : String} {r : Resource} :
    parse s = .ok r ↔ read s.toList = .ok r := mapError_eq_ok_iff

theorem parse_eq_error_iff {s : String} {f : Fault} :
    parse s = .error f ↔ ∃ cause, read s.toList = .error cause ∧ f = .badResource s cause :=
  mapError_eq_error_iff

theorem Parsed.wellNamed {r : Resource} (h : r.Parsed) : r.WellNamed := by
  rcases h with ⟨s, hs⟩
  exact (read_eq_ok_iff.mp (parse_eq_ok_iff.mp hs)).1

/-- Resources that were read from texts are written differently. Without that, two of
    them can be written alike. -/
theorem text_injective {r r' : Resource} (h : r.Parsed) (h' : r'.Parsed)
    (heq : r.text = r'.text) : r = r' := by
  have hread := read_chars_iff.mpr h.wellNamed
  rw [String.ofList_injective heq, read_chars_iff.mpr h'.wellNamed] at hread
  exact (Except.ok.inj hread).symm

/-- What reading a resource is. The written form is read back exactly if the
    resource is well named. A text is read exactly if it is the spelling of a
    well named resource, which it then gives. Every other text is a bad resource
    name, and nothing else is ever wrong with it. -/
theorem names_read :
    (∀ r : Resource, parse r.text = .ok r ↔ r.WellNamed) ∧
    (∀ (s : String) (r : Resource), parse s = .ok r ↔ r.WellNamed ∧ r.Spells s.toList) ∧
    (∀ s : String, (∀ r : Resource, r.WellNamed → ¬ r.Spells s.toList) →
      ∃ cause, parse s = .error (.badResource s cause)) ∧
    ∀ (s : String) (f : Fault), parse s = .error f → f.code = .invalidResource := by
  refine ⟨fun r => ?_, fun s r => ?_, fun s hnone => ?_, fun s f h => ?_⟩
  · rw [parse_eq_ok_iff, text, String.toList_ofList, read_chars_iff]
  · rw [parse_eq_ok_iff, read_eq_ok_iff]
  · cases hread : read s.toList with
    | ok r =>
        rcases read_eq_ok_iff.mp hread with ⟨hnamed, hspells⟩
        exact absurd hspells (hnone r hnamed)
    | error cause => exact ⟨cause, parse_eq_error_iff.mpr ⟨cause, hread, rfl⟩⟩
  · rcases parse_eq_error_iff.mp h with ⟨cause, -, rfl⟩
    rfl

/-- A group whose name holds the separators and whose owner is spelled in both
    cases, a bucket with a capital letter and a bucket with a colon. -/
theorem names_read_respelled :
    let owner : Address := ⟨List.replicate 20 0xAB, rfl⟩
    let team : Resource := .group owner "a::b/c:"
    let s := "grn:g:0XABabABabABabABabABabABabABabABabABabABab::a::b/c:"
    let t := "grn:b:::x"
    parse team.text = .ok team ∧ team.WellNamed ∧ team.Spells s.toList ∧ parse s = .ok team ∧
      parse (bucket "Photos").text ≠ .ok (bucket "Photos") ∧
      ∃ cause, parse t = .error (.badResource t cause) := by
  intro owner team s t
  rcases names_read with ⟨hback, hread, hother, -⟩
  have hs : parse s = .ok team := by decide +kernel
  rcases (hread s team).mp hs with ⟨hnamed, hspells⟩
  refine ⟨(hback team).mpr hnamed, hnamed, hspells, (hread s team).mpr ⟨hnamed, hspells⟩,
    fun hphotos => ?_, hother t fun r hr hspelled => ?_⟩
  · have hname : BucketName "Photos".toList := (hback (bucket "Photos")).mp hphotos
    exact absurd (isBucketName_iff.mpr hname) (by decide +kernel)
  · have ht : parse t = .error (.badResource t .badBucketName) := by decide +kernel
    rw [(hread t r).mpr ⟨hr, hspelled⟩] at ht
    injection ht

end Resource

end StoragePolicy
