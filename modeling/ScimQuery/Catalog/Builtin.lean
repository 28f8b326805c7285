import ScimQuery.Catalog.Declaration

/-! # The built-in catalog

The resource types User, Group and Role over the tables of an identity server: users with
their SCIM attributes, addresses, certificates, e-mail addresses, entitlements, phone
numbers, photos, instant messaging addresses, roles and group memberships; groups with
their members; and the realm roles that are not client roles.
-/

namespace ScimQuery.Catalog

/-- The User resource type. -/
def userDecl : ResourceDecl where
  name := "User"
  endpoint := some "/Users"
  schema := "urn:ietf:params:scim:schemas:core:2.0:User"
  extensions := ["urn:ietf:params:scim:schemas:extension:enterprise:2.0:User"]
  root := ⟨"USER_ENTITY", "u"⟩
  idColumn := "ID"
  tenantColumn := "REALM_ID"
  restrictions := [{ column := "SERVICE_ACCOUNT_CLIENT_LINK", op := .isNull }]
  tables := [
    ⟨"USER_SCIM_ATTRIBUTES", "ua"⟩,
    ⟨"SCIM_ADDRESSES", "uad"⟩,
    ⟨"SCIM_CERTIFICATES", "uc"⟩,
    ⟨"SCIM_EMAILS", "ue"⟩,
    ⟨"SCIM_ENTITLEMENTS", "uen"⟩,
    ⟨"SCIM_PHONE_NUMBERS", "uph"⟩,
    ⟨"SCIM_PHOTOS", "upho"⟩,
    ⟨"SCIM_IMS", "ui"⟩,
    ⟨"SCIM_PERSON_ROLES", "upr"⟩,
    ⟨"USER_GROUP_MEMBERSHIP", "ugm"⟩,
    ⟨"KEYCLOAK_GROUP", "g"⟩]
  joins := [
    { name := "attributes", source := "u", sourceColumn := "ID",
      target := "ua", targetColumn := "USER_ID", outer := true },
    { name := "addresses", source := "ua", sourceColumn := "ID",
      target := "uad", targetColumn := "SCIM_ATTRIBUTES_ID", outer := true, toMany := true },
    { name := "certificates", source := "ua", sourceColumn := "ID",
      target := "uc", targetColumn := "SCIM_ATTRIBUTES_ID", outer := true, toMany := true },
    { name := "emails", source := "ua", sourceColumn := "ID",
      target := "ue", targetColumn := "SCIM_ATTRIBUTES_ID", outer := true, toMany := true },
    { name := "entitlements", source := "ua", sourceColumn := "ID",
      target := "uen", targetColumn := "SCIM_ATTRIBUTES_ID", outer := true, toMany := true },
    { name := "phone_numbers", source := "ua", sourceColumn := "ID",
      target := "uph", targetColumn := "SCIM_ATTRIBUTES_ID", outer := true, toMany := true },
    { name := "photos", source := "ua", sourceColumn := "ID",
      target := "upho", targetColumn := "SCIM_ATTRIBUTES_ID", outer := true, toMany := true },
    { name := "ims", source := "ua", sourceColumn := "ID",
      target := "ui", targetColumn := "SCIM_ATTRIBUTES_ID", outer := true, toMany := true },
    { name := "person_roles", source := "ua", sourceColumn := "ID",
      target := "upr", targetColumn := "SCIM_ATTRIBUTES_ID", outer := true, toMany := true },
    { name := "membership", source := "u", sourceColumn := "ID",
      target := "ugm", targetColumn := "USER_ID", outer := true, toMany := true },
    { name := "group", source := "ugm", sourceColumn := "GROUP_ID",
      target := "g", targetColumn := "ID", outer := true }]
  attributes := [
    { name := "id", column := "ID", caseExact := true },
    { name := "userName", column := "USERNAME" },
    { name := "active", column := "ENABLED", kind := .boolean },
    { parent := some "meta", name := "created", column := "CREATED_TIMESTAMP", kind := .dateTime },
    { name := "externalId", column := "EXTERNAL_ID", caseExact := true, joins := ["attributes"] },
    { parent := some "name", name := "formatted", column := "NAME_FORMATTED", joins := ["attributes"] },
    { parent := some "name", name := "familyName", column := "FAMILY_NAME", joins := ["attributes"] },
    { parent := some "name", name := "givenName", column := "GIVEN_NAME", joins := ["attributes"] },
    { parent := some "name", name := "middleName", column := "MIDDLE_NAME", joins := ["attributes"] },
    { parent := some "name", name := "honorificPrefix", column := "NAME_HONORIFIC_PREFIX", joins := ["attributes"] },
    { parent := some "name", name := "honorificSuffix", column := "NAME_HONORIFIC_SUFFIX", joins := ["attributes"] },
    { name := "displayName", column := "DISPLAY_NAME", joins := ["attributes"] },
    { name := "nickName", column := "NICK_NAME", joins := ["attributes"] },
    { name := "profileUrl", column := "PROFILE_URL", kind := .reference, caseExact := true, joins := ["attributes"] },
    { name := "title", column := "TITLE", joins := ["attributes"] },
    { name := "userType", column := "USER_TYPE", joins := ["attributes"] },
    { name := "preferredLanguage", column := "PREFERRED_LANGUAGE", joins := ["attributes"] },
    { name := "locale", column := "LOCALE", joins := ["attributes"] },
    { name := "timezone", column := "TIMEZONE", joins := ["attributes"] },
    { parent := some "meta", name := "lastModified", column := "LAST_MODIFIED", kind := .dateTime, joins := ["attributes"] },
    { parent := some "addresses", name := "formatted", column := "FORMATTED", joins := ["attributes", "addresses"] },
    { parent := some "addresses", name := "streetAddress", column := "STREET_ADDRESS", joins := ["attributes", "addresses"] },
    { parent := some "addresses", name := "locality", column := "LOCALITY", joins := ["attributes", "addresses"] },
    { parent := some "addresses", name := "region", column := "REGION", joins := ["attributes", "addresses"] },
    { parent := some "addresses", name := "postalCode", column := "POSTALCODE", joins := ["attributes", "addresses"] },
    { parent := some "addresses", name := "country", column := "COUNTRY", joins := ["attributes", "addresses"] },
    { parent := some "addresses", name := "type", column := "ADDRESS_TYPE", joins := ["attributes", "addresses"] },
    { parent := some "addresses", name := "primary", column := "IS_PRIMARY", kind := .boolean, joins := ["attributes", "addresses"] },
    { parent := some "x509Certificates", name := "value", column := "CERTIFICATE_VALUE", caseExact := true, joins := ["attributes", "certificates"] },
    { parent := some "x509Certificates", name := "type", column := "CERTIFICATE_TYPE", joins := ["attributes", "certificates"] },
    { parent := some "x509Certificates", name := "display", column := "CERTIFICATE_DISPLAY", joins := ["attributes", "certificates"] },
    { parent := some "x509Certificates", name := "primary", column := "IS_PRIMARY", kind := .boolean, joins := ["attributes", "certificates"] },
    { parent := some "emails", name := "value", column := "EMAIL_VALUE", joins := ["attributes", "emails"] },
    { parent := some "emails", name := "type", column := "EMAIL_TYPE", joins := ["attributes", "emails"] },
    { parent := some "emails", name := "primary", column := "IS_PRIMARY", kind := .boolean, joins := ["attributes", "emails"] },
    { parent := some "entitlements", name := "value", column := "ENTITLEMENT_VALUE", joins := ["attributes", "entitlements"] },
    { parent := some "entitlements", name := "type", column := "ENTITLEMENT_TYPE", joins := ["attributes", "entitlements"] },
    { parent := some "entitlements", name := "display", column := "ENTITLEMENT_DISPLAY", joins := ["attributes", "entitlements"] },
    { parent := some "entitlements", name := "primary", column := "IS_PRIMARY", kind := .boolean, joins := ["attributes", "entitlements"] },
    { parent := some "phoneNumbers", name := "value", column := "PHONE_VALUE", joins := ["attributes", "phone_numbers"] },
    { parent := some "phoneNumbers", name := "type", column := "PHONE_TYPE", joins := ["attributes", "phone_numbers"] },
    { parent := some "phoneNumbers", name := "display", column := "PHONE_DISPLAY", joins := ["attributes", "phone_numbers"] },
    { parent := some "phoneNumbers", name := "primary", column := "IS_PRIMARY", kind := .boolean, joins := ["attributes", "phone_numbers"] },
    { parent := some "photos", name := "value", column := "PHOTO_VALUE", kind := .reference, caseExact := true, joins := ["attributes", "photos"] },
    { parent := some "photos", name := "type", column := "PHOTO_TYPE", joins := ["attributes", "photos"] },
    { parent := some "photos", name := "display", column := "PHOTO_DISPLAY", joins := ["attributes", "photos"] },
    { parent := some "photos", name := "primary", column := "IS_PRIMARY", kind := .boolean, joins := ["attributes", "photos"] },
    { parent := some "ims", name := "value", column := "IMS_VALUE", joins := ["attributes", "ims"] },
    { parent := some "ims", name := "type", column := "IMS_TYPE", joins := ["attributes", "ims"] },
    { parent := some "ims", name := "display", column := "IMS_DISPLAY", joins := ["attributes", "ims"] },
    { parent := some "ims", name := "primary", column := "IS_PRIMARY", kind := .boolean, joins := ["attributes", "ims"] },
    { parent := some "roles", name := "value", column := "PERSON_ROLE_VALUE", joins := ["attributes", "person_roles"] },
    { parent := some "roles", name := "type", column := "PERSON_ROLE_TYPE", joins := ["attributes", "person_roles"] },
    { parent := some "roles", name := "display", column := "PERSON_ROLE_DISPLAY", joins := ["attributes", "person_roles"] },
    { parent := some "roles", name := "primary", column := "IS_PRIMARY", kind := .boolean, joins := ["attributes", "person_roles"] },
    { parent := some "groups", name := "value", column := "ID", caseExact := true, joins := ["membership", "group"] },
    { parent := some "groups", name := "display", column := "NAME", joins := ["membership", "group"] },
    { schema := some "urn:ietf:params:scim:schemas:extension:enterprise:2.0:User", name := "employeeNumber", column := "EP_EMPLOYEE_NUMBER", joins := ["attributes"] },
    { schema := some "urn:ietf:params:scim:schemas:extension:enterprise:2.0:User", name := "costCenter", column := "EP_COST_CENTER", joins := ["attributes"] },
    { schema := some "urn:ietf:params:scim:schemas:extension:enterprise:2.0:User", name := "organization", column := "EP_ORGANIZATION", joins := ["attributes"] },
    { schema := some "urn:ietf:params:scim:schemas:extension:enterprise:2.0:User", name := "division", column := "EP_DIVISION", joins := ["attributes"] },
    { schema := some "urn:ietf:params:scim:schemas:extension:enterprise:2.0:User", name := "department", column := "EP_DEPARTMENT", joins := ["attributes"] },
    { schema := some "urn:ietf:params:scim:schemas:extension:enterprise:2.0:User", parent := some "manager", name := "value", column := "EP_MANAGER_VALUE", caseExact := true, joins := ["attributes"] },
    { schema := some "urn:ietf:params:scim:schemas:extension:enterprise:2.0:User", parent := some "manager", name := "$ref", column := "EP_MANAGER_REFERENCE", kind := .reference, caseExact := true, joins := ["attributes"] }]
  associations := [
    { name := "addresses", joins := ["attributes", "addresses"],
      columns := [⟨"formatted", "uad", "FORMATTED"⟩, ⟨"streetAddress", "uad", "STREET_ADDRESS"⟩, ⟨"locality", "uad", "LOCALITY"⟩, ⟨"region", "uad", "REGION"⟩, ⟨"postalCode", "uad", "POSTALCODE"⟩, ⟨"country", "uad", "COUNTRY"⟩, ⟨"type", "uad", "ADDRESS_TYPE"⟩, ⟨"primary", "uad", "IS_PRIMARY"⟩] },
    { name := "x509Certificates", joins := ["attributes", "certificates"],
      columns := [⟨"value", "uc", "CERTIFICATE_VALUE"⟩, ⟨"type", "uc", "CERTIFICATE_TYPE"⟩, ⟨"display", "uc", "CERTIFICATE_DISPLAY"⟩, ⟨"primary", "uc", "IS_PRIMARY"⟩] },
    { name := "emails", joins := ["attributes", "emails"],
      columns := [⟨"value", "ue", "EMAIL_VALUE"⟩, ⟨"type", "ue", "EMAIL_TYPE"⟩, ⟨"primary", "ue", "IS_PRIMARY"⟩] },
    { name := "entitlements", joins := ["attributes", "entitlements"],
      columns := [⟨"value", "uen", "ENTITLEMENT_VALUE"⟩, ⟨"type", "uen", "ENTITLEMENT_TYPE"⟩, ⟨"display", "uen", "ENTITLEMENT_DISPLAY"⟩, ⟨"primary", "uen", "IS_PRIMARY"⟩] },
    { name := "phoneNumbers", joins := ["attributes", "phone_numbers"],
      columns := [⟨"value", "uph", "PHONE_VALUE"⟩, ⟨"type", "uph", "PHONE_TYPE"⟩, ⟨"display", "uph", "PHONE_DISPLAY"⟩, ⟨"primary", "uph", "IS_PRIMARY"⟩] },
    { name := "photos", joins := ["attributes", "photos"],
      columns := [⟨"value", "upho", "PHOTO_VALUE"⟩, ⟨"type", "upho", "PHOTO_TYPE"⟩, ⟨"display", "upho", "PHOTO_DISPLAY"⟩, ⟨"primary", "upho", "IS_PRIMARY"⟩] },
    { name := "ims", joins := ["attributes", "ims"],
      columns := [⟨"value", "ui", "IMS_VALUE"⟩, ⟨"type", "ui", "IMS_TYPE"⟩, ⟨"display", "ui", "IMS_DISPLAY"⟩, ⟨"primary", "ui", "IS_PRIMARY"⟩] },
    { name := "roles", joins := ["attributes", "person_roles"],
      columns := [⟨"value", "upr", "PERSON_ROLE_VALUE"⟩, ⟨"type", "upr", "PERSON_ROLE_TYPE"⟩, ⟨"display", "upr", "PERSON_ROLE_DISPLAY"⟩, ⟨"primary", "upr", "IS_PRIMARY"⟩] },
    { name := "groups", joins := ["membership", "group"],
      columns := [⟨"value", "g", "ID"⟩, ⟨"display", "g", "NAME"⟩] }]

/-- The Group resource type. -/
def groupDecl : ResourceDecl where
  name := "Group"
  endpoint := some "/Groups"
  schema := "urn:ietf:params:scim:schemas:core:2.0:Group"
  root := ⟨"KEYCLOAK_GROUP", "g"⟩
  idColumn := "ID"
  tenantColumn := "REALM_ID"
  tables := [
    ⟨"USER_GROUP_MEMBERSHIP", "ugm"⟩,
    ⟨"USER_ENTITY", "mu"⟩]
  joins := [
    { name := "membership", source := "g", sourceColumn := "ID",
      target := "ugm", targetColumn := "GROUP_ID", outer := true, toMany := true },
    { name := "member", source := "ugm", sourceColumn := "USER_ID",
      target := "mu", targetColumn := "ID", outer := true }]
  attributes := [
    { name := "id", column := "ID", caseExact := true },
    { name := "displayName", column := "NAME" },
    { parent := some "members", name := "value", column := "USER_ID", caseExact := true, joins := ["membership"] },
    { parent := some "members", name := "display", column := "USERNAME", joins := ["membership", "member"] }]
  associations := [
    { name := "members", joins := ["membership", "member"],
      columns := [⟨"value", "mu", "ID"⟩, ⟨"display", "mu", "USERNAME"⟩] }]

/-- The Role resource type. -/
def roleDecl : ResourceDecl where
  name := "Role"
  endpoint := some "/Roles"
  schema := "urn:gold:params:scim:schemas:keycloak:2.0:RealmRole"
  root := ⟨"KEYCLOAK_ROLE", "r"⟩
  idColumn := "ID"
  tenantColumn := "REALM_ID"
  restrictions := [{ column := "CLIENT_ROLE", op := .eq, value := some (.bool false) }]
  attributes := [
    { name := "id", column := "ID", caseExact := true },
    { name := "name", column := "NAME" },
    { name := "description", column := "DESCRIPTION" }]

/-- The built-in catalog. -/
def builtin : CatalogDecl := ⟨[userDecl, groupDecl, roleDecl]⟩

end ScimQuery.Catalog
