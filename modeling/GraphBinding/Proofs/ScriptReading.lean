import GraphBinding.Proofs.ModuleLines

namespace GraphBinding.Outline

/-! Script modules, read. -/

open ScriptModule

variable (flavor : Flavor) {group : String × List Member} {opened : List (String × List Member)}

theorem script_regular : (script flavor).Regular where
  unbroken := by simp [script]
  begins := ⟨'$', by decide, by simp [script]⟩
  listed := by
    simp only [script, List.forall_mem_cons]
    exact ⟨fun _ => rfl, fun _ => rfl, List.forall_mem_nil _⟩
  required _ := by
    simp only [script]
    rfl

theorem script_writes : (script flavor).Writes typeExpression property "\x7d," where
  list item := by simp [script]
  nonNull nullable := by simp [script]
  unbroken {name} _ := by
    rw [typeExpression_named]
    exact ((script_regular flavor).shows_literal name).unbroken
  head name := by
    rw [typeExpression_named]
    exact ((script_regular flavor).shows_literal name).head
  named {name} _ depth := by
    rw [typeExpression_named, Source.literal, Json.quoted, String.toList_ofList]
    exact (script_regular flavor).valueWithin_json (.inl rfl) (Json.parseRaw_quoted name) depth
  property key text := by simp [property, script]
  closing := by simp [script]

theorem not_mem_callOnSchema (function : String) (unbroken : '\n' ∉ function.toList)
    (arguments : List String) : '\n' ∉ (callOnSchema function arguments).toList := by
  have listed := (Json.unbroken_listedChars (arguments.map String.toList)).newline_not_mem
  simpa [callOnSchema, Source.literal, Json.quoted, Function.comp_def, Json.listedChars,
    String.toList_intercalate, unbroken] using listed

theorem script_shows_source (source : Option FieldSource) :
    (script flavor).Shows (sourceExpression source)
      (if source.isSome then .resolver else .undefined) := by
  have call (function : String) (unbroken : '\n' ∉ function.toList) (arguments : List String) :
      (script flavor).Shows (callOnSchema function arguments) .resolver := by
    refine (script_regular flavor).shows_resolver
      (not_mem_callOnSchema function unbroken arguments) ?_
    rw [callOnSchema, String.append_assoc, String.append_assoc, String.append_assoc,
      String.toList_append]
    exact ⟨_, rfl⟩
  cases source with
  | none => exact (script_regular flavor).shows_undefined
  | some source => cases source <;> exact call _ (by decide) _

theorem script_reads_entry {entry : String × ObjectEntry} (named : EntryNamed entry) :
    (script flavor).Reads (group :: opened) (entryLines entry) [entryMember entry] := by
  have regular := script_regular flavor
  have writes := script_writes flavor
  obtain ⟨key, name | description | field⟩ := entry
  · exact writes.reads_property regular named.isKey (regular.shows_literal name)
  · exact writes.reads_property regular named.isKey (regular.shows_literal description)
  · have typed (group : String × List Member) (opened : List (String × List Member)) :
        (script flavor).Reads (group :: opened) [property "type" (typeExpression field.type)]
          [.value "type" (.ofType field.type)] :=
      writes.reads_property regular (by decide) (writes.shows_type regular named.type)
    exact writes.reads_field regular named typed (script_shows_source flavor field.source)

theorem exportKeyword_toList : ∃ rest, (exportKeyword flavor).toList = 'e' :: rest := by
  cases flavor <;> exact ⟨_, rfl⟩

theorem script_reads_exported {name : String} (isName : IsName name) {body : List String}
    {added : List Member} (reads : ∀ before, (script flavor).Reads [(name, before)] body added) :
    (script flavor).Reads [] (exported flavor name body) [.group name added] := by
  have written : (binding flavor name ++ " \x7b").toList =
      (exportKeyword flavor).toList ++ (name.toList ++ " = \x7b".toList) := by
    cases flavor <;> simp [binding, exportKeyword]
  obtain ⟨rest, shape⟩ := exportKeyword_toList flavor
  refine Dialect.reads_exported (by rw [written, shape]; rfl) (by decide) (by decide) ?_ ?_ reads
  · cases flavor <;> simp [binding, isName.isKey.unbroken]
  · have begins : (exportKeyword flavor).toList.isPrefixOf?
        ((exportKeyword flavor).toList ++ (name.toList ++ " = \x7b".toList)) =
        some (name.toList ++ ' ' :: "= \x7b".toList) := List.isPrefixOf?_eq_some_iff_append_eq.2 rfl
    rw [written]
    have blank := isName.not_mem (show isNameChar ' ' = false by decide)
    simp only [script, scriptOutside, begins, takeWhile_ne blank, dropWhile_ne blank,
      String.ofList_toList]
    rfl

theorem script_reads_blank : (script flavor).Reads [] [""] [] :=
  Dialect.reads_silent (by decide) fun _ => by cases flavor <;> rfl

theorem script_reads_silent {line : String} {c : Char} {rest : List Char}
    (shape : line.toList = c :: rest) (apart : c ∉ [' ', '/', 'e'])
    (unbroken : '\n' ∉ line.toList) : (script flavor).Reads [] [line] [] := by
  simp only [List.mem_cons, List.not_mem_nil, or_false, not_or] at apart
  obtain ⟨blank, slash, other⟩ := apart
  refine Dialect.reads_silent unbroken fun members => ?_
  obtain ⟨tail, keyword⟩ := exportKeyword_toList flavor
  have silent : (script flavor).outside (c :: rest) = .silent := by
    have differ : ('e' == c) = false := beq_eq_false_iff_ne.2 (Ne.symm other)
    simp [script, scriptOutside, keyword, List.isPrefixOf?, differ]
  rw [shape, Dialect.read_of_head _ blank slash, List.isEmpty_nil, if_pos rfl, silent]
  rfl

theorem script_reads_header : (script flavor).Reads [] (header flavor) [] := by
  have package := ((script_regular flavor).shows_literal helperPackage).unbroken
  have banner : (script flavor).Reads [] [Module.banner] [] :=
    Dialect.reads_silent (by decide) fun _ => by cases flavor <;> rfl
  have blank := script_reads_blank flavor
  cases flavor with
  | esm =>
    have helper : (script .esm).Reads []
        ["import * as $runtime from " ++ Source.literal helperPackage] [] :=
      script_reads_silent .esm (by rw [String.toList_append]; rfl) (by decide) (by simp [package])
    exact banner.append (helper.append blank)
  | cjs =>
    have strict : (script .cjs).Reads [] ["\"use strict\""] [] :=
      script_reads_silent .cjs rfl (by decide) (by decide)
    have helper : (script .cjs).Reads []
        ["const $runtime = require(" ++ Source.literal helperPackage ++ ")"] [] :=
      script_reads_silent .cjs (by rw [String.append_assoc, String.toList_append]; rfl) (by decide)
        (by simp [package])
    exact banner.append (strict.append (blank.append (helper.append blank)))

theorem script_reads_handle (schema : Schema) :
    (script flavor).Reads []
      ["const $schema = $runtime.createSchema(" ++ (handle schema).text ++ ")"] [] := by
  have unbroken := (Json.unbroken_chars (handle schema)).newline_not_mem
  have shape : ∃ rest, ("const $schema = $runtime.createSchema(" ++ (handle schema).text ++
      ")").toList = 'c' :: rest := by
    rw [String.append_assoc, String.toList_append]
    exact ⟨_, rfl⟩
  obtain ⟨rest, shape⟩ := shape
  exact script_reads_silent flavor shape (by decide) (by simp [Json.text, unbroken])

theorem script_reads_settings :
    (script flavor).Reads [] [binding flavor "$settings" ++ " $runtime.changeSettings"]
      [.value "$settings" (.other " = $runtime.changeSettings")] := by
  cases flavor <;> exact Dialect.reads_line rfl (by decide) (by decide) (by decide) rfl

end GraphBinding.Outline
