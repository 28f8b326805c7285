import ScimQuery.Store.Run

/-! # The identity store tables

The tables of users, their SCIM attributes and multi-valued attributes, groups, group
memberships and roles, as the queries of the built-in catalog expect to find them.
-/

namespace ScimQuery.Store

/-- The statements that create the identity store tables. -/
def identitySchema : String :=
  "CREATE TABLE USER_ENTITY (\n"
  ++ "    ID TEXT PRIMARY KEY,\n"
  ++ "    USERNAME TEXT,\n"
  ++ "    ENABLED INTEGER,\n"
  ++ "    CREATED_TIMESTAMP INTEGER,\n"
  ++ "    REALM_ID TEXT NOT NULL,\n"
  ++ "    SERVICE_ACCOUNT_CLIENT_LINK TEXT\n"
  ++ ");\n"
  ++ "CREATE TABLE USER_SCIM_ATTRIBUTES (\n"
  ++ "    ID TEXT PRIMARY KEY,\n"
  ++ "    USER_ID TEXT NOT NULL,\n"
  ++ "    EXTERNAL_ID TEXT,\n"
  ++ "    NAME_FORMATTED TEXT,\n"
  ++ "    FAMILY_NAME TEXT,\n"
  ++ "    GIVEN_NAME TEXT,\n"
  ++ "    MIDDLE_NAME TEXT,\n"
  ++ "    NAME_HONORIFIC_PREFIX TEXT,\n"
  ++ "    NAME_HONORIFIC_SUFFIX TEXT,\n"
  ++ "    DISPLAY_NAME TEXT,\n"
  ++ "    NICK_NAME TEXT,\n"
  ++ "    PROFILE_URL TEXT,\n"
  ++ "    TITLE TEXT,\n"
  ++ "    USER_TYPE TEXT,\n"
  ++ "    PREFERRED_LANGUAGE TEXT,\n"
  ++ "    LOCALE TEXT,\n"
  ++ "    TIMEZONE TEXT,\n"
  ++ "    LAST_MODIFIED INTEGER,\n"
  ++ "    EP_EMPLOYEE_NUMBER TEXT,\n"
  ++ "    EP_COST_CENTER TEXT,\n"
  ++ "    EP_ORGANIZATION TEXT,\n"
  ++ "    EP_DIVISION TEXT,\n"
  ++ "    EP_DEPARTMENT TEXT,\n"
  ++ "    EP_MANAGER_VALUE TEXT,\n"
  ++ "    EP_MANAGER_REFERENCE TEXT\n"
  ++ ");\n"
  ++ "CREATE TABLE SCIM_ADDRESSES (\n"
  ++ "    ID TEXT PRIMARY KEY,\n"
  ++ "    SCIM_ATTRIBUTES_ID TEXT NOT NULL,\n"
  ++ "    FORMATTED TEXT,\n"
  ++ "    STREET_ADDRESS TEXT,\n"
  ++ "    LOCALITY TEXT,\n"
  ++ "    REGION TEXT,\n"
  ++ "    POSTALCODE TEXT,\n"
  ++ "    COUNTRY TEXT,\n"
  ++ "    ADDRESS_TYPE TEXT,\n"
  ++ "    IS_PRIMARY INTEGER\n"
  ++ ");\n"
  ++ "CREATE TABLE SCIM_CERTIFICATES (\n"
  ++ "    ID TEXT PRIMARY KEY,\n"
  ++ "    SCIM_ATTRIBUTES_ID TEXT NOT NULL,\n"
  ++ "    CERTIFICATE_VALUE TEXT,\n"
  ++ "    CERTIFICATE_TYPE TEXT,\n"
  ++ "    CERTIFICATE_DISPLAY TEXT,\n"
  ++ "    IS_PRIMARY INTEGER\n"
  ++ ");\n"
  ++ "CREATE TABLE SCIM_EMAILS (\n"
  ++ "    ID TEXT PRIMARY KEY,\n"
  ++ "    SCIM_ATTRIBUTES_ID TEXT NOT NULL,\n"
  ++ "    EMAIL_VALUE TEXT,\n"
  ++ "    EMAIL_TYPE TEXT,\n"
  ++ "    IS_PRIMARY INTEGER\n"
  ++ ");\n"
  ++ "CREATE TABLE SCIM_ENTITLEMENTS (\n"
  ++ "    ID TEXT PRIMARY KEY,\n"
  ++ "    SCIM_ATTRIBUTES_ID TEXT NOT NULL,\n"
  ++ "    ENTITLEMENT_VALUE TEXT,\n"
  ++ "    ENTITLEMENT_TYPE TEXT,\n"
  ++ "    ENTITLEMENT_DISPLAY TEXT,\n"
  ++ "    IS_PRIMARY INTEGER\n"
  ++ ");\n"
  ++ "CREATE TABLE SCIM_PHONE_NUMBERS (\n"
  ++ "    ID TEXT PRIMARY KEY,\n"
  ++ "    SCIM_ATTRIBUTES_ID TEXT NOT NULL,\n"
  ++ "    PHONE_VALUE TEXT,\n"
  ++ "    PHONE_TYPE TEXT,\n"
  ++ "    PHONE_DISPLAY TEXT,\n"
  ++ "    IS_PRIMARY INTEGER\n"
  ++ ");\n"
  ++ "CREATE TABLE SCIM_PHOTOS (\n"
  ++ "    ID TEXT PRIMARY KEY,\n"
  ++ "    SCIM_ATTRIBUTES_ID TEXT NOT NULL,\n"
  ++ "    PHOTO_VALUE TEXT,\n"
  ++ "    PHOTO_TYPE TEXT,\n"
  ++ "    PHOTO_DISPLAY TEXT,\n"
  ++ "    IS_PRIMARY INTEGER\n"
  ++ ");\n"
  ++ "CREATE TABLE SCIM_IMS (\n"
  ++ "    ID TEXT PRIMARY KEY,\n"
  ++ "    SCIM_ATTRIBUTES_ID TEXT NOT NULL,\n"
  ++ "    IMS_VALUE TEXT,\n"
  ++ "    IMS_TYPE TEXT,\n"
  ++ "    IMS_DISPLAY TEXT,\n"
  ++ "    IS_PRIMARY INTEGER\n"
  ++ ");\n"
  ++ "CREATE TABLE SCIM_PERSON_ROLES (\n"
  ++ "    ID TEXT PRIMARY KEY,\n"
  ++ "    SCIM_ATTRIBUTES_ID TEXT NOT NULL,\n"
  ++ "    PERSON_ROLE_VALUE TEXT,\n"
  ++ "    PERSON_ROLE_TYPE TEXT,\n"
  ++ "    PERSON_ROLE_DISPLAY TEXT,\n"
  ++ "    IS_PRIMARY INTEGER\n"
  ++ ");\n"
  ++ "CREATE TABLE KEYCLOAK_GROUP (\n"
  ++ "    ID TEXT PRIMARY KEY,\n"
  ++ "    NAME TEXT,\n"
  ++ "    REALM_ID TEXT NOT NULL\n"
  ++ ");\n"
  ++ "CREATE TABLE USER_GROUP_MEMBERSHIP (\n"
  ++ "    GROUP_ID TEXT NOT NULL,\n"
  ++ "    USER_ID TEXT NOT NULL,\n"
  ++ "    PRIMARY KEY (GROUP_ID, USER_ID)\n"
  ++ ");\n"
  ++ "CREATE TABLE KEYCLOAK_ROLE (\n"
  ++ "    ID TEXT PRIMARY KEY,\n"
  ++ "    NAME TEXT,\n"
  ++ "    DESCRIPTION TEXT,\n"
  ++ "    REALM_ID TEXT NOT NULL,\n"
  ++ "    CLIENT_ROLE INTEGER NOT NULL\n"
  ++ ");\n"

/-- A database with the identity store tables, all empty. -/
def identityDatabase : Except String Database := Database.runText {} identitySchema

end ScimQuery.Store
