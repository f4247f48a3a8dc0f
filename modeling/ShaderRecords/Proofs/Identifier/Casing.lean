/-
ShaderRecords.Proofs.Identifier.Casing — names whose defines differ if they do.

A name becomes a define in upper case, with an underscore before every capital that follows a small letter and for
every blank. Different names may become the same define: `color` and `Color`, `spotSize` and `spot_size`. Names of
letters and digits in which capitals begin words (`Identifier.IsCased`) do not, if all of them or none of them begin
with a capital. Names of constants lose a mark before that, and only if they have none is the same true of them
(`Identifier.IsUnmarked`).
-/
import Mathlib.Data.List.Nodup
import ShaderRecords.Identifier

namespace ShaderRecords.Identifier

/-- ASCII letters and digits. -/
def nameCharacters : List Char :=
  "abcdefghijklmnopqrstuvwxyzABCDEFGHIJKLMNOPQRSTUVWXYZ0123456789".toList

/-- Whether a name consists of letters and digits and capitals begin words in it: the first character is a capital
if `capital` says so, and every other capital follows a small letter. -/
structure IsCased (capital : Bool) (name : String) : Prop where
  characters : ∀ c ∈ name.toList, c ∈ nameCharacters
  first : ∀ c ∈ name.toList.head?, isCapital c = capital
  words : name.toList.IsChain fun c d => isCapital d = true → isSmall c = true

/-- What a character of such a name stands for in a define, unless it is the first one. -/
def defineImage (c : Char) : List Char :=
  if isCapital c then '_' :: Text.upperImage c else Text.upperImage c

theorem flatMap_separate {c : Char} {rest : List Char}
    (h : (c :: rest).IsChain fun c d => isCapital d = true → isSmall c = true) :
    (separate (c :: rest)).flatMap Text.upperImage = Text.upperImage c ++ rest.flatMap defineImage := by
  induction rest generalizing c with
  | nil => simp [separate]
  | cons d rest ih =>
    obtain ⟨hword, hrest⟩ := List.isChain_cons_cons.mp h
    have hunderscore : Text.upperImage '_' = ['_'] := by decide
    rw [separate, List.flatMap_cons, defineImage]
    cases hcapital : isCapital d with
    | true =>
      rw [hword hcapital, Bool.and_true, if_pos rfl, if_pos rfl, List.flatMap_cons, List.flatMap_cons, ih hrest,
        hunderscore]
      simp
    | false =>
      rw [Bool.and_false, if_neg (by simp), if_neg (by simp), List.flatMap_cons, ih hrest]

theorem length_upperImage {c : Char} (hc : c ∈ nameCharacters) : (Text.upperImage c).length = 1 := by
  have hone : nameCharacters.all (fun c => (Text.upperImage c).length = 1) = true := by decide
  exact of_decide_eq_true (List.all_eq_true.mp hone c hc)

/-- The first character tells how many there are, since an underscore stands before capitals only. -/
theorem length_defineImage {c : Char} (hc : c ∈ nameCharacters) :
    (defineImage c).length = if (defineImage c).head? = some '_' then 2 else 1 := by
  have hread : nameCharacters.all (fun c =>
      (defineImage c).length = if (defineImage c).head? = some '_' then 2 else 1) = true := by
    decide
  exact of_decide_eq_true (List.all_eq_true.mp hread c hc)

theorem defineImage_inj {c d : Char} (hc : c ∈ nameCharacters) (hd : d ∈ nameCharacters)
    (h : defineImage c = defineImage d) : c = d := by
  have hdifferent : (nameCharacters.map defineImage).Nodup := by decide
  exact List.inj_on_of_nodup_map hdifferent hc hd h

theorem defineImage_append_ne_nil {c : Char} (hc : c ∈ nameCharacters) (rest : List Char) :
    defineImage c ++ rest ≠ [] := by
  intro h
  have hlength := length_defineImage hc
  rw [(List.append_eq_nil_iff.mp h).1] at hlength
  simp at hlength

theorem flatMap_defineImage_inj {a b : List Char} (ha : ∀ c ∈ a, c ∈ nameCharacters)
    (hb : ∀ c ∈ b, c ∈ nameCharacters) (h : a.flatMap defineImage = b.flatMap defineImage) : a = b := by
  induction a generalizing b with
  | nil =>
    cases b with
    | nil => rfl
    | cons d b => exact absurd h.symm (defineImage_append_ne_nil (hb d (by simp)) _)
  | cons c a ih =>
    have hc := ha c (by simp)
    cases b with
    | nil => exact absurd h (defineImage_append_ne_nil hc _)
    | cons d b =>
      have hd := hb d (by simp)
      rw [List.flatMap_cons, List.flatMap_cons] at h
      have hheads := congrArg List.head? h
      rw [List.head?_append_of_ne_nil _ fun hnil => defineImage_append_ne_nil hc [] (by rw [hnil]; rfl),
        List.head?_append_of_ne_nil _ fun hnil => defineImage_append_ne_nil hd [] (by rw [hnil]; rfl)] at hheads
      obtain ⟨hfirst, hrest⟩ := List.append_inj h
        (by rw [length_defineImage hc, length_defineImage hd, hheads])
      rw [defineImage_inj hc hd hfirst, ih (fun e he => ha e (List.mem_cons_of_mem _ he))
        (fun e he => hb e (List.mem_cons_of_mem _ he)) hrest]

/-- Different names differ in upper case as well, if all of them or none of them begin with a capital. -/
theorem upper_separateWords_inj {capital : Bool} {a b : String} (ha : IsCased capital a)
    (hb : IsCased capital b) (h : Text.upper (separateWords a) = Text.upper (separateWords b)) : a = b := by
  have hlists : (separate a.toList).flatMap Text.upperImage = (separate b.toList).flatMap Text.upperImage := by
    simpa [Text.upper, separateWords] using congrArg String.toList h
  have hempty : (separate []).flatMap Text.upperImage = [] := rfl
  obtain ⟨hcharactersA, hfirstA, hwordsA⟩ := ha
  obtain ⟨hcharactersB, hfirstB, hwordsB⟩ := hb
  refine String.toList_inj.mp ?_
  generalize a.toList = a at *
  generalize b.toList = b at *
  match a, b with
  | [], [] => rfl
  | [], d :: t =>
    rw [hempty, flatMap_separate hwordsB] at hlists
    have hlength := congrArg List.length hlists
    rw [List.length_append, length_upperImage (hcharactersB d (by simp)), List.length_nil] at hlength
    omega
  | c :: s, [] =>
    rw [hempty, flatMap_separate hwordsA] at hlists
    have hlength := congrArg List.length hlists
    rw [List.length_append, length_upperImage (hcharactersA c (by simp)), List.length_nil] at hlength
    omega
  | c :: s, d :: t =>
    have hc := hcharactersA c (by simp)
    have hd := hcharactersB d (by simp)
    rw [flatMap_separate hwordsA, flatMap_separate hwordsB] at hlists
    obtain ⟨hfirst, hrest⟩ := List.append_inj hlists ((length_upperImage hc).trans (length_upperImage hd).symm)
    have himages : defineImage c = defineImage d := by
      rw [defineImage, defineImage, hfirst, hfirstA c rfl, hfirstB d rfl]
    rw [defineImage_inj hc hd himages, flatMap_defineImage_inj
      (fun e he => hcharactersA e (List.mem_cons_of_mem _ he))
      (fun e he => hcharactersB e (List.mem_cons_of_mem _ he)) hrest]

theorem upper_append (a b : String) : Text.upper (a ++ b) = Text.upper a ++ Text.upper b := by
  simp [Text.upper]

theorem ofEnumValue_inj {capital : Bool} {typeName a b : String} (ha : IsCased capital a)
    (hb : IsCased capital b) (h : ofEnumValue typeName a = ofEnumValue typeName b) : a = b := by
  rw [ofEnumValue, ofEnumValue, upper_append, upper_append _ (separateWords b), String.append_right_inj] at h
  exact upper_separateWords_inj ha hb h

example : ofEnumValue "Kind" "color" = ofEnumValue "Kind" "Color" := by decide

/-- The defines of debug entries begin with a front of their own. -/
theorem ofDebugEntry_eq (fullName label : String) :
    ofDebugEntry fullName label = "DEBUGVIEW_" ++ (Text.upper (unqualified fullName ++ "_")
      ++ Text.upper (separateWords (String.ofList (label.toList.map fun c => if c = ' ' then '_' else c)))) := by
  have hfront : Text.upper "DEBUGVIEW_" = "DEBUGVIEW_" := by decide
  rw [ofDebugEntry, separateWords, String.toList_ofList, String.append_assoc, String.append_assoc,
    upper_append, hfront, ← String.append_assoc, upper_append]

theorem ofDebugEntry_inj {capital : Bool} {fullName a b : String} (ha : IsCased capital a)
    (hb : IsCased capital b) (h : ofDebugEntry fullName a = ofDebugEntry fullName b) : a = b := by
  have hunchanged : ∀ {label : String}, IsCased capital label →
      String.ofList (label.toList.map fun c => if c = ' ' then '_' else c) = label := by
    intro label hlabel
    have hblank : ∀ c ∈ label.toList, (if c = ' ' then '_' else c) = c := by
      intro c hc
      have hnone : ' ' ∉ nameCharacters := by decide
      exact if_neg fun (heq : c = ' ') => hnone (heq ▸ hlabel.characters c hc)
    rw [List.map_congr_left hblank, List.map_id', String.ofList_toList]
  rw [ofDebugEntry_eq, ofDebugEntry_eq, hunchanged ha, hunchanged hb, String.append_right_inj,
    String.append_right_inj] at h
  exact upper_separateWords_inj ha hb h

/-- Whether a name of a constant has no mark, and does not look like that of a debug entry. -/
structure IsUnmarked (name : String) : Prop where
  mark_eq : dropConstantMark (separateWords name) = separateWords name
  apart : ¬ "DEBUGVIEW_".toList <+: (ofConstant name).toList

theorem ofConstant_inj {capital : Bool} {a b : String} (ha : IsCased capital a) (hb : IsCased capital b)
    (hmarkA : IsUnmarked a) (hmarkB : IsUnmarked b) (h : ofConstant a = ofConstant b) : a = b := by
  rw [ofConstant, ofConstant, hmarkA.mark_eq, hmarkB.mark_eq] at h
  exact upper_separateWords_inj ha hb h

example : ofConstant "kMax" = ofConstant "max" := by decide

theorem ofConstant_ne_ofDebugEntry {name : String} (h : IsUnmarked name) (fullName label : String) :
    ofConstant name ≠ ofDebugEntry fullName label := by
  intro heq
  refine h.apart ?_
  rw [heq, ofDebugEntry_eq, String.toList_append]
  exact List.prefix_append _ _

end ShaderRecords.Identifier
