import PgliteOxide.Lib.SqlLexer
import PgliteOxide.Pglite.Extensions
import PgliteOxide.Pglite.Proxy
import PgliteOxide.Pglite.SessionTheorems

/-!
# Quoted identifiers

`quote_identifier` against the rule by which PostgreSQL reads a quoted identifier. The names that
callers choose (channels, roles, schemas, extensions) are one token of the statements they are
put into, whatever characters they have.
-/

namespace PgliteOxide.Pglite

open Lib Protocol

/-! ## Reading an identifier -/

/-- A quoted identifier at the front of a text, and what follows it. The length limit of names,
which truncates, is not part of this rule. -/
def readIdentifier (text : String) : Option (String × String) :=
  (readEnclosed '"' text.toList).map fun r => (String.ofList r.1, String.ofList r.2)

def sqlTokens (sql : String) : Option (List Token) := tokens sql.toList

lemma toList_quoteIdentifier (ident : String) :
    (quoteIdentifier ident).toList = enclose '"' ident.toList := by
  unfold quoteIdentifier enclose doubleMarks
  simp only [String.toList_append, String.toList_ofList]
  rfl

lemma quoteIdentifier_inj {a c : String} (h : quoteIdentifier a = quoteIdentifier c) : a = c := by
  have hlist := congrArg String.toList h
  rw [toList_quoteIdentifier, toList_quoteIdentifier] at hlist
  exact String.toList_injective (enclose_injective '"' hlist)

lemma readIdentifier_quoteIdentifier {t : String} (ht : t.toList.head? ≠ some '"') (s : String) :
    readIdentifier (quoteIdentifier s ++ t) = some (s, t) := by
  unfold readIdentifier
  rw [String.toList_append, toList_quoteIdentifier, readEnclosed_enclose '"' ht]
  simp

/-! ## Statements with a name -/

/-- Keywords at the front of a statement are tokens. -/
lemma sqlTokens_words {text : String} (words : List String)
    (htext : text.toList = (words.map String.toList).flatMap (· ++ [' ']))
    (hwords : ((words.map String.toList).all fun word =>
      !word.isEmpty && word.all isWordChar) = true) (rest : String) :
    sqlTokens (text ++ rest)
      = (sqlTokens rest).map (words.map (fun word => .word word.toList) ++ ·) := by
  unfold sqlTokens
  rw [String.toList_append, htext, tokens_words hwords, List.map_map]
  rfl

/-- A quoted name is a token of its own, and the rest of the statement keeps its tokens. -/
lemma sqlTokens_quoteIdentifier {t : String} (ht : t.toList.head? ≠ some '"') (name : String) :
    sqlTokens (quoteIdentifier name ++ t) = (sqlTokens t).map (.name name.toList :: ·) := by
  unfold sqlTokens
  rw [String.toList_append, toList_quoteIdentifier]
  exact tokens_enclose ht name.toList

lemma sqlTokens_lastName (name : String) :
    sqlTokens (quoteIdentifier name) = some [.name name.toList] := by
  have h := sqlTokens_quoteIdentifier (t := "") (by decide) name
  rw [String.append_empty] at h
  rw [h]
  show (tokens []).map _ = _
  rw [tokens_nil]
  rfl

/-- The tokens of a statement of some words and one name. -/
def command (words : List String) (name : String) : List Token :=
  words.map (fun word => .word word.toList) ++ [.name name.toList]

lemma sqlTokens_command (text : String) (words : List String)
    (htext : text.toList = (words.map String.toList).flatMap (· ++ [' ']))
    (hwords : ((words.map String.toList).all fun word =>
      !word.isEmpty && word.all isWordChar) = true) (name : String) :
    sqlTokens (text ++ quoteIdentifier name) = some (command words name) := by
  rw [sqlTokens_words words htext hwords, sqlTokens_lastName]
  rfl

lemma sqlTokens_listen (channel : String) :
    sqlTokens s!"LISTEN {quoteIdentifier channel}" = some (command ["LISTEN"] channel) :=
  sqlTokens_command "LISTEN " ["LISTEN"] (by decide) (by decide) channel

lemma sqlTokens_unlisten (channel : String) :
    sqlTokens s!"UNLISTEN {quoteIdentifier channel}" = some (command ["UNLISTEN"] channel) :=
  sqlTokens_command "UNLISTEN " ["UNLISTEN"] (by decide) (by decide) channel

lemma sqlTokens_setRole (role : String) :
    sqlTokens s!"SET ROLE {quoteIdentifier role}" = some (command ["SET", "ROLE"] role) :=
  sqlTokens_command "SET ROLE " ["SET", "ROLE"] (by decide) (by decide) role

/-! ## Extension setup -/

/-- The tokens of `CREATE SCHEMA`. -/
def createSchemaTokens (schema : String) : List Token :=
  command ["CREATE", "SCHEMA", "IF", "NOT", "EXISTS"] schema ++ [.symbol ';']

/-- The tokens of `CREATE EXTENSION`. -/
def createExtensionTokens (name : String) (schema : Option String) : List Token :=
  command ["CREATE", "EXTENSION", "IF", "NOT", "EXISTS"] name
    ++ (schema.map (command ["WITH", "SCHEMA"])).getD [] ++ [.symbol ';']

lemma sqlTokens_end : sqlTokens ";" = some [.symbol ';'] := by
  show tokens [';'] = _
  rw [tokens_semicolon, tokens_nil]
  rfl

lemma sqlTokens_createSchema (schema : String) :
    sqlTokens s!"CREATE SCHEMA IF NOT EXISTS {quoteIdentifier schema};"
      = some (createSchemaTokens schema) := by
  show sqlTokens ("CREATE SCHEMA IF NOT EXISTS " ++ quoteIdentifier schema ++ ";") = _
  rw [String.append_assoc,
    sqlTokens_words ["CREATE", "SCHEMA", "IF", "NOT", "EXISTS"] (by decide) (by decide),
    sqlTokens_quoteIdentifier (by decide), sqlTokens_end]
  rfl

lemma sqlTokens_withSchema (schema : String) :
    sqlTokens (s!" WITH SCHEMA {quoteIdentifier schema}" ++ ";")
      = some (command ["WITH", "SCHEMA"] schema ++ [.symbol ';']) := by
  have hblank (text : String) : sqlTokens (" " ++ text) = sqlTokens text := by
    unfold sqlTokens
    rw [String.toList_append]
    exact tokens_blank text.toList
  show sqlTokens (" " ++ "WITH SCHEMA " ++ quoteIdentifier schema ++ ";") = _
  rw [String.append_assoc, String.append_assoc, hblank,
    sqlTokens_words ["WITH", "SCHEMA"] (by decide) (by decide),
    sqlTokens_quoteIdentifier (by decide), sqlTokens_end]
  rfl

lemma sqlTokens_createExtension (name : String) (schema : Option String) :
    sqlTokens (s!"CREATE EXTENSION IF NOT EXISTS {quoteIdentifier name}"
      ++ (schema.map fun schema => s!" WITH SCHEMA {quoteIdentifier schema}").getD "" ++ ";")
      = some (createExtensionTokens name schema) := by
  have hfront (t : String) (ht : t.toList.head? ≠ some '"') :
      sqlTokens ("CREATE EXTENSION IF NOT EXISTS " ++ (quoteIdentifier name ++ t))
        = (sqlTokens t).map
          (command ["CREATE", "EXTENSION", "IF", "NOT", "EXISTS"] name ++ ·) := by
    rw [sqlTokens_words ["CREATE", "EXTENSION", "IF", "NOT", "EXISTS"] (by decide) (by decide),
      sqlTokens_quoteIdentifier ht, Option.map_map]
    rfl
  show sqlTokens ("CREATE EXTENSION IF NOT EXISTS " ++ quoteIdentifier name ++ _ ++ ";") = _
  rw [String.append_assoc, String.append_assoc]
  cases schema with
  | none =>
    rw [Option.map_none, Option.getD_none, String.empty_append, hfront ";" (by decide),
      sqlTokens_end]
    rfl
  | some schema =>
    have hhead : (s!" WITH SCHEMA {quoteIdentifier schema}" ++ ";").toList.head? ≠ some '"' := by
      show (String.ofList (' ' :: _) ++ _ ++ ";").toList.head? ≠ some '"'
      rw [String.toList_append, String.toList_append, String.toList_ofList]
      simp
    rw [Option.map_some, Option.getD_some, hfront _ hhead, sqlTokens_withSchema]
    rfl

/-- The statements that `extension_setup_sql` builds from names. The others are the extension's
own texts. -/
lemma extensionSetupSql_tokens {extension : Extension} {sql : String}
    (h : sql ∈ extensionSetupSql extension) :
    sql ∈ extensionSessionSetupSql extension ∨
      (∃ schema, extension.setup.createSchema = some schema ∧
        sqlTokens sql = some (createSchemaTokens schema)) ∨
      sqlTokens sql
        = some (createExtensionTokens extension.sqlName extension.setup.createSchema) := by
  unfold extensionSetupSql at h
  rw [List.append_assoc, List.mem_append] at h
  rcases h with hcreate | hsession
  · right
    split at hcreate
    · rcases List.mem_append.mp hcreate with hschema | hextension
      · obtain ⟨schema, hfilter, hschema⟩ := Option.map_eq_some_iff.mp (Option.mem_toList.mp hschema)
        left
        refine ⟨schema, ?_, ?_⟩
        · exact (Option.filter_eq_some_iff.mp hfilter).1
        · rw [← hschema]
          exact sqlTokens_createSchema schema
      · right
        rw [List.mem_singleton.mp hextension]
        exact sqlTokens_createExtension extension.sqlName extension.setup.createSchema
    · simp at hcreate
  · left
    exact hsession

/-! ## What the operations send -/

namespace Session

variable {σ α : Type} {build : Build} {b : Backend σ} {stack : ℕ}

/-- An exchange is recorded with its request. -/
lemma execProtocol_history (build : Build) (b : Backend σ) (request : Request)
    (options : ExecProtocolOptions) (s : Session σ) :
    ∃ e : Exchange, e.request = request ∧
      (execProtocol build b request options s).1.history = s.history ++ [e] := by
  rw [execProtocol_eq build b request options s rfl]
  exact ⟨_, rfl, rfl⟩

/-- Everything an operation sends is in `A`. -/
def Sends (A : Request → Prop) (m : Method σ α) : Prop :=
  ∀ s, ∃ sent, (m s).1.history = s.history ++ sent ∧ ∀ e ∈ sent, A e.request

lemma steady_sends {A : Request → Prop} (hlookup : ∀ oid, A (.query (arrayTypeLookupSql oid)))
    (history : List Exchange) :
    Steady build b (fun s => ∃ sent, s.history = history ++ sent ∧ ∀ e ∈ sent, A e.request) A where
  createBlobDir _ h := h
  writeBlob _ _ h := h
  removeBlob _ h := h
  fields _ _ h _ _ _ _ _ _ := h
  lookup := hlookup
  exchange request hrequest options s h := by
    obtain ⟨sent, hsent, hA⟩ := h
    obtain ⟨e, he, hhistory⟩ := execProtocol_history build b request options s
    refine ⟨sent ++ [e], ?_, ?_⟩
    · rw [hhistory, hsent, List.append_assoc]
    · intro e' hmem
      rcases List.mem_append.mp hmem with hold | hnew
      · exact hA e' hold
      · rw [List.mem_singleton.mp hnew, he]
        exact hrequest

/-- Catalog lookups, and statements that consist of these words and this one name. -/
def IsCommand (words : List String) (name : String) (request : Request) : Prop :=
  (∃ oid, request = .query (arrayTypeLookupSql oid)) ∨
    ∃ sql, request = .query sql ∧ sqlTokens sql = some (command words name)

lemma listen_sends (channel : String) (callback : CallbackId) :
    Sends (IsCommand ["LISTEN"] channel) (listen build b stack channel callback) := by
  intro s
  apply (steady_sends (fun oid => Or.inl ⟨oid, rfl⟩) s.history).keeps_listen
  · exact Or.inr ⟨_, rfl, sqlTokens_listen channel⟩
  · exact ⟨[], (List.append_nil _).symm, by simp⟩

lemma unlisten_sends (handle : ListenerHandle) :
    Sends (IsCommand ["UNLISTEN"] handle.channel) (unlisten build b stack handle) := by
  intro s
  apply (steady_sends (fun oid => Or.inl ⟨oid, rfl⟩) s.history).keeps_unlisten
  · exact Or.inr ⟨_, rfl, sqlTokens_unlisten handle.channel⟩
  · exact ⟨[], (List.append_nil _).symm, by simp⟩

lemma unlistenChannel_sends (channel : String) :
    Sends (IsCommand ["UNLISTEN"] channel) (unlistenChannel build b stack channel) := by
  intro s
  apply (steady_sends (fun oid => Or.inl ⟨oid, rfl⟩) s.history).keeps_unlistenChannel
  · exact Or.inr ⟨_, rfl, sqlTokens_unlisten channel⟩
  · exact ⟨[], (List.append_nil _).symm, by simp⟩

end Session

/-- `set_role` of the proxy makes one call, a simple query. -/
lemma setRole_sends (backend : Handle) (user : String) :
    (setRole backend user).keepsTo
      (fun op => ∃ sql, op = .send .setRole backend (simpleQueryMessage sql) ∧
        sqlTokens sql = some (command ["SET", "ROLE"] user)) fun _ => True := by
  simp only [setRole, Prog.keepsTo_bind, Call.send, Prog.keepsTo_perform]
  refine ⟨⟨_, rfl, sqlTokens_setRole user⟩, fun ans => ?_⟩
  rcases ans with err | response <;> trivial

/-! ## No name leaves its token -/

/-- **Identifier quoting is injection free.** Read back by PostgreSQL's rule, a quoted identifier
is the name it was made from, whatever follows it, so quoting is injective; and the statements
built from channels, roles, schemas and extension names hold each of them as one token. -/
theorem quoteIdentifier_isolates {σ : Type} (build : Build) (b : Backend σ) (stack : ℕ) :
    (∀ s t : String, t.toList.head? ≠ some '"' →
      readIdentifier (quoteIdentifier s ++ t) = some (s, t)) ∧
    Function.Injective quoteIdentifier ∧
    (∀ channel callback,
      Session.Sends (Session.IsCommand ["LISTEN"] channel)
        (Session.listen build b stack channel callback)) ∧
    (∀ handle : ListenerHandle,
      Session.Sends (Session.IsCommand ["UNLISTEN"] handle.channel)
        (Session.unlisten build b stack handle)) ∧
    (∀ channel,
      Session.Sends (Session.IsCommand ["UNLISTEN"] channel)
        (Session.unlistenChannel build b stack channel)) ∧
    (∀ backend user, (setRole backend user).keepsTo
      (fun op => ∃ sql, op = .send .setRole backend (simpleQueryMessage sql) ∧
        sqlTokens sql = some (command ["SET", "ROLE"] user)) fun _ => True) ∧
    ∀ extension : Extension, ∀ sql ∈ extensionSetupSql extension,
      sql ∈ extensionSessionSetupSql extension ∨
        (∃ schema, extension.setup.createSchema = some schema ∧
          sqlTokens sql = some (createSchemaTokens schema)) ∨
        sqlTokens sql
          = some (createExtensionTokens extension.sqlName extension.setup.createSchema) := by
  refine ⟨fun s t ht => readIdentifier_quoteIdentifier ht s, fun a c h => quoteIdentifier_inj h,
    ?_, ?_, ?_, ?_, ?_⟩
  · exact Session.listen_sends
  · exact Session.unlisten_sends
  · exact Session.unlistenChannel_sends
  · exact setRole_sends
  · exact fun extension sql h => extensionSetupSql_tokens h

/-- A name that tries to close its quotes. -/
example : readIdentifier (quoteIdentifier "a\"; DROP ROLE b; --" ++ ";")
    = some ("a\"; DROP ROLE b; --", ";") := by
  apply readIdentifier_quoteIdentifier
  decide

end PgliteOxide.Pglite
