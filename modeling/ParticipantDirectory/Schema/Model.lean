import ParticipantDirectory.Schema.Table

/-!
# The tables of a directory

The tables that hold users, service groups, business cards and business entities, as they are created when a
directory creates its tables itself. The application fills in ids and times.
-/

namespace ParticipantDirectory.Schema.Model

/-- The table of users. -/
def users : Table where
  name := "smp_users"
  columns :=
    [.filledBy .application "id" .uuid, .required "login_name" (.varchar 200), .required "password_hash" (.varchar 200),
      .filledBy .application "created_at" .timestamp]
  primaryKey := "id"
  uniques := ["login_name"]

/-- The table of service groups. -/
def groups : Table where
  name := "smp_service_groups"
  columns :=
    [.required "id" (.varchar 100), .required "participant_scheme" (.varchar 100),
      .required "participant_value" (.varchar 500), .required "owner_id" .uuid, .optional "extension" .text,
      .filledBy .application "created_at" .timestamp]
  primaryKey := "id"
  foreignKeys := [⟨"owner_id", "smp_users", "id", false⟩]

/-- The table of business cards. -/
def cards : Table where
  name := "smp_business_cards"
  columns :=
    [.required "id" (.varchar 100), .required "participant_scheme" (.varchar 100),
      .required "participant_value" (.varchar 500), .filledBy .application "updated_at" .timestamp]
  primaryKey := "id"
  foreignKeys := [⟨"id", "smp_service_groups", "id", true⟩]

/-- The table of business entities. -/
def entities : Table where
  name := "smp_business_card_entities"
  columns :=
    [.required "id" (.varchar 36), .required "business_card_id" (.varchar 100), .required "position" .integer,
      .filledBy .application "names" .json, .required "country_code" (.varchar 2),
      .optional "geographical_information" .text, .filledBy .application "identifiers" .json,
      .filledBy .application "website_uris" .json, .filledBy .application "contacts" .json,
      .optional "additional_information" .text, .optional "registration_date" .date]
  primaryKey := "id"
  foreignKeys := [⟨"business_card_id", "smp_business_cards", "id", true⟩]

/-- The four tables. -/
def tables : List Table := [users, groups, cards, entities]

end ParticipantDirectory.Schema.Model
