import SdkAudit.Rules.Basic

/-!
# The catalogue

The documentation of the SDK for each technology.  A change of the documented contract is a change
of these tables and of nothing else.
-/

namespace SdkAudit.Catalogue

/-- The servers a session can be opened with. -/
def serverNames : List String :=
  ["L3", "L3_US", "EMC", "EMC_US", "CROC"]

def flutterInitializer : Initialization :=
  { required := true, method := "engage",
    parameters := [⟨"sdkKey", "string", true,
        "The SDK ID for your account", none⟩,
       ⟨"googleProjectId", "string", true,
        "Can be an empty string; kept for backward compatibility", none⟩,
       ⟨"server", "SERVER", true,
        "Server for engagement (L3, L3_US, EMC, EMC_US, CROC)", some serverNames⟩,
       ⟨"appId", "string", true,
        "Application ID", none⟩,
       ⟨"tenantId", "string", true,
        "ID which recognizes you at the Mapp Engage system", none⟩],
    sample := "await MappSdk.engage(\n" ++
      "    \"sdkKey\",\n" ++
      "    \"googleProjectId\",\n" ++
      "    SERVER.L3,\n" ++
      "    \"appId\",\n" ++
      "    \"tenantId\"\n" ++
      ")" }

def flutterMethods : List Method :=
  [ { name := "engage", required := true,
      parameters := flutterInitializer.parameters,
      sample := flutterInitializer.sample,
      needsInitialization := false,
      description := "Initialize the Mapp SDK" },
    { name := "logOut", required := false,
      parameters := [⟨"pushEnabled", "boolean", true,
        "Sets the state of receiving push messages while logging out", none⟩],
      sample := "await MappSdk.logOut(true)",
      needsInitialization := true,
      description := "Logs out the current user, with option to control push message state" },
    { name := "isReady", required := false,
      parameters := [],
      sample := "await MappSdk.isReady()",
      needsInitialization := true,
      description := "Check if SDK is ready to use" },
    { name := "getAlias", required := false,
      parameters := [],
      sample := "String alias = await MappSdk.getAlias()",
      needsInitialization := true,
      description := "Get device alias" },
    { name := "setAlias", required := false,
      parameters := [⟨"alias", "string", true,
        "Device alias", none⟩],
      sample := "MappSdk.setAlias(\"your_alias\");",
      needsInitialization := true,
      description := "Set device alias" },
    { name := "isPushEnabled", required := true,
      parameters := [],
      sample := "bool enabled = await MappSdk.isPushEnabled()",
      needsInitialization := true,
      description := "Check if push notifications are enabled" },
    { name := "setPushEnabled", required := true,
      parameters := [⟨"enabled", "boolean", true,
        "Whether push notifications should be enabled", none⟩],
      sample := "await MappSdk.setPushEnabled(true)",
      needsInitialization := true,
      description := "Enable or disable push notifications" },
    { name := "handledPushOpen", required := true,
      parameters := [],
      sample := "await MappSdk.handledPushOpen()",
      needsInitialization := true,
      description := "Must be called when a push notification is opened" },
    { name := "startGeoFencing", required := false,
      parameters := [],
      sample := "await MappSdk.startGeoFencing()",
      needsInitialization := true,
      description := "Start geofencing services if location permissions are granted" },
    { name := "stopGeoFencing", required := false,
      parameters := [],
      sample := "await MappSdk.stopGeoFencing()",
      needsInitialization := true,
      description := "Stop geofencing services" } ]

def flutterRules : RuleSet :=
  { technology := .flutter, name := "Flutter",
    fileExtensions := [".dart"],
    facade := "MappSdk",
    initialization := flutterInitializer,
    methods := flutterMethods,
    bestPractices := [
      "Initialize SDK at application startup using engage method",
      "Handle iOS specific configuration in AppoxeeConfig.plist",
      "Always check if plugin is initialized with isReady()",
      "Implement proper error handling with try-catch blocks",
      "Use appropriate server constant from the SERVER enum",
      "Handle push notification permissions appropriately",
      "Implement all required event handlers for push notifications"],
    errorHandling :=
      { recommendations := [
        "Wrap SDK calls in try-catch blocks",
        "Handle initialization failures gracefully",
        "Check isReady() before making other SDK calls",
        "Handle platform-specific differences (iOS vs Android)"],
        sample := "try \x7b\n" ++
          "    await MappSdk.engage(...);\n" ++
          "\x7d catch (error) \x7b\n" ++
          "    print('Mapp SDK error: $error');\n" ++
          "\x7d" },
    requiredMethods := ["engage", "isPushEnabled", "setPushEnabled", "handledPushOpen"],
    methodPatterns := [
      ⟨"engage", "\\bengage\\s*\\("⟩,
      ⟨"isPushEnabled", "MappSdk\\.isPushEnabled\\s*\\("⟩,
      ⟨"setPushEnabled", "MappSdk\\.setPushEnabled\\s*\\("⟩,
      ⟨"handledPushOpen", "MappSdk\\.handledPushOpen\\s*\\("⟩,
      ⟨"isReady", "MappSdk\\.isReady\\s*\\("⟩] }

def reactNativeInitializer : Initialization :=
  { required := true, method := "initialize",
    parameters := [⟨"sdkKey", "string", true,
        "The SDK ID for your account", none⟩,
       ⟨"server", "string", true,
        "Server for engagement", some serverNames⟩,
       ⟨"appId", "string", true,
        "Application ID", none⟩,
       ⟨"tenantId", "string", true,
        "ID which recognizes you at the Mapp Engage system", none⟩],
    sample := "import MappSdk from '@mapp/react-native-sdk';\n" ++
      "\n" ++
      "await MappSdk.initialize(\x7b\n" ++
      "  sdkKey: \"your-sdk-key\",\n" ++
      "  server: \"L3\",\n" ++
      "  appId: \"your-app-id\",\n" ++
      "  tenantId: \"your-tenant-id\"\n" ++
      "\x7d);" }

def reactNativeMethods : List Method :=
  [ { name := "initialize", required := true,
      parameters := [⟨"config", "object", true,
        "SDK configuration object", none⟩],
      sample := "await MappSdk.initialize(config)",
      needsInitialization := false,
      description := "Initialize the Mapp SDK" },
    { name := "isPushEnabled", required := true,
      parameters := [],
      sample := "const enabled = await MappSdk.isPushEnabled();",
      needsInitialization := true,
      description := "Check if push notifications are enabled" },
    { name := "setPushEnabled", required := true,
      parameters := [⟨"enabled", "boolean", true,
        "Whether push notifications should be enabled", none⟩],
      sample := "await MappSdk.setPushEnabled(true);",
      needsInitialization := true,
      description := "Enable or disable push notifications" } ]

def reactNativeRules : RuleSet :=
  { technology := .reactNative, name := "React Native",
    fileExtensions := [".jsx", ".tsx", ".js", ".ts"],
    facade := "MappSdk",
    initialization := reactNativeInitializer,
    methods := reactNativeMethods,
    bestPractices := [
      "Initialize SDK in app root component",
      "Handle initialization errors properly",
      "Check initialization status before using other methods"],
    errorHandling :=
      { recommendations := [
        "Wrap SDK calls in try-catch blocks",
        "Handle initialization failures gracefully"],
        sample := "try \x7b\n" ++
          "  await MappSdk.initialize(config);\n" ++
          "\x7d catch (error) \x7b\n" ++
          "  console.error('Mapp SDK initialization failed:', error);\n" ++
          "\x7d" },
    requiredMethods := ["initialize", "isPushEnabled", "setPushEnabled"],
    methodPatterns := [
      ⟨"initialize", "MappSdk\\.initialize\\s*\\("⟩,
      ⟨"isPushEnabled", "MappSdk\\.isPushEnabled\\s*\\("⟩,
      ⟨"setPushEnabled", "MappSdk\\.setPushEnabled\\s*\\("⟩] }

def androidKotlinInitializer : Initialization :=
  { required := true, method := "engage",
    parameters := [⟨"context", "Context", true,
        "Android application context", none⟩,
       ⟨"config", "MappConfig", true,
        "SDK configuration", none⟩],
    sample := "MappSdk.engage(context, config)" }

def androidKotlinMethods : List Method :=
  [ { name := "engage", required := true,
      parameters := androidKotlinInitializer.parameters,
      sample := androidKotlinInitializer.sample,
      needsInitialization := false,
      description := "Initialize the Mapp SDK" },
    { name := "isPushEnabled", required := true,
      parameters := [],
      sample := "val enabled = MappSdk.isPushEnabled()",
      needsInitialization := true,
      description := "Check if push notifications are enabled" },
    { name := "setPushEnabled", required := true,
      parameters := [⟨"enabled", "Boolean", true,
        "Whether push notifications should be enabled", none⟩],
      sample := "MappSdk.setPushEnabled(true)",
      needsInitialization := true,
      description := "Enable or disable push notifications" } ]

def androidKotlinRules : RuleSet :=
  { technology := .androidKotlin, name := "Android (Kotlin)",
    fileExtensions := [".kt"],
    facade := "MappSdk",
    initialization := androidKotlinInitializer,
    methods := androidKotlinMethods,
    bestPractices := [
      "Initialize SDK in Application class",
      "Handle initialization errors properly"],
    errorHandling :=
      { recommendations := ["Use try-catch blocks around SDK calls", "Log initialization failures"],
        sample := "try \x7b\n" ++
          "    MappSdk.engage(context, config)\n" ++
          "\x7d catch (exception: Exception) \x7b\n" ++
          "    Log.e(\"MappSDK\", \"Failed to initialize: $\x7bexception.message\x7d\")\n" ++
          "\x7d" },
    requiredMethods := ["engage", "isPushEnabled", "setPushEnabled"],
    methodPatterns := [
      ⟨"engage", "MappSdk\\.engage\\s*\\("⟩,
      ⟨"isPushEnabled", "MappSdk\\.isPushEnabled\\s*\\("⟩,
      ⟨"setPushEnabled", "MappSdk\\.setPushEnabled\\s*\\("⟩] }

def androidJavaInitializer : Initialization :=
  { required := true, method := "engage",
    parameters := [⟨"context", "Context", true,
        "Android application context", none⟩,
       ⟨"config", "MappConfig", true,
        "SDK configuration", none⟩],
    sample := "MappSdk.engage(getApplicationContext(), config);" }

def androidJavaMethods : List Method :=
  [ { name := "engage", required := true,
      parameters := androidJavaInitializer.parameters,
      sample := "MappSdk.engage(context, config);",
      needsInitialization := false,
      description := "Initialize the Mapp SDK" },
    { name := "isPushEnabled", required := true,
      parameters := [],
      sample := "boolean enabled = MappSdk.isPushEnabled();",
      needsInitialization := true,
      description := "Check if push notifications are enabled" },
    { name := "setPushEnabled", required := true,
      parameters := [⟨"enabled", "boolean", true,
        "Whether push notifications should be enabled", none⟩],
      sample := "MappSdk.setPushEnabled(true);",
      needsInitialization := true,
      description := "Enable or disable push notifications" } ]

def androidJavaRules : RuleSet :=
  { technology := .androidJava, name := "Android (Java)",
    fileExtensions := [".java"],
    facade := "MappSdk",
    initialization := androidJavaInitializer,
    methods := androidJavaMethods,
    bestPractices := [
      "Initialize SDK in Application class",
      "Handle initialization errors properly"],
    errorHandling :=
      { recommendations := ["Use try-catch blocks around SDK calls", "Log initialization failures"],
        sample := "try \x7b\n" ++
          "    MappSdk.engage(context, config);\n" ++
          "\x7d catch (Exception e) \x7b\n" ++
          "    Log.e(\"MappSDK\", \"Failed to initialize: \" + e.getMessage());\n" ++
          "\x7d" },
    requiredMethods := ["engage", "isPushEnabled", "setPushEnabled"],
    methodPatterns := [
      ⟨"engage", "MappSdk\\.engage\\s*\\("⟩,
      ⟨"isPushEnabled", "MappSdk\\.isPushEnabled\\s*\\("⟩,
      ⟨"setPushEnabled", "MappSdk\\.setPushEnabled\\s*\\("⟩] }

def iosObjcInitializer : Initialization :=
  { required := true, method := "engage",
    parameters := [⟨"config", "MappConfig", true,
        "SDK configuration", none⟩],
    sample := "[MappSdk engageWithConfig:config];" }

def iosObjcMethods : List Method :=
  [ { name := "engage", required := true,
      parameters := iosObjcInitializer.parameters,
      sample := iosObjcInitializer.sample,
      needsInitialization := false,
      description := "Initialize the Mapp SDK" },
    { name := "isPushEnabled", required := true,
      parameters := [],
      sample := "BOOL enabled = [MappSdk isPushEnabled];",
      needsInitialization := true,
      description := "Check if push notifications are enabled" },
    { name := "setPushEnabled", required := true,
      parameters := [⟨"enabled", "BOOL", true,
        "Whether push notifications should be enabled", none⟩],
      sample := "[MappSdk setPushEnabled:YES];",
      needsInitialization := true,
      description := "Enable or disable push notifications" } ]

def iosObjcRules : RuleSet :=
  { technology := .iosObjc, name := "iOS (Objective-C)",
    fileExtensions := [".m", ".h"],
    facade := "MappSdk",
    initialization := iosObjcInitializer,
    methods := iosObjcMethods,
    bestPractices := ["Initialize SDK in AppDelegate", "Handle initialization errors"],
    errorHandling :=
      { recommendations := ["Use @try/@catch blocks", "Log errors appropriately"],
        sample := "@try \x7b\n" ++
          "    [MappSdk engageWithConfig:config];\n" ++
          "\x7d @catch (NSException *exception) \x7b\n" ++
          "    NSLog(@\"Mapp SDK initialization failed: %@\", exception);\n" ++
          "\x7d" },
    requiredMethods := ["engage", "isPushEnabled", "setPushEnabled"],
    methodPatterns := [
      ⟨"engage", "\\[MappSdk engageWithConfig:"⟩,
      ⟨"isPushEnabled", "\\[MappSdk isPushEnabled\\]"⟩,
      ⟨"setPushEnabled", "\\[MappSdk setPushEnabled:"⟩] }

def iosSwiftInitializer : Initialization :=
  { required := true, method := "engage",
    parameters := [⟨"configuration", "MappConfiguration", true,
        "SDK configuration object", none⟩],
    sample := "MappSdk.shared.engage(with: config)" }

def iosSwiftMethods : List Method :=
  [ { name := "engage", required := true,
      parameters := iosSwiftInitializer.parameters,
      sample := "try MappSdk.shared.engage(with: config)",
      needsInitialization := false,
      description := "Initialize the Mapp SDK" },
    { name := "isPushEnabled", required := true,
      parameters := [],
      sample := "let enabled = MappSdk.shared.isPushEnabled()",
      needsInitialization := true,
      description := "Check if push notifications are enabled" },
    { name := "setPushEnabled", required := true,
      parameters := [⟨"enabled", "Bool", true,
        "Whether push notifications should be enabled", none⟩],
      sample := "MappSdk.shared.setPushEnabled(true)",
      needsInitialization := true,
      description := "Enable or disable push notifications" } ]

def iosSwiftRules : RuleSet :=
  { technology := .iosSwift, name := "iOS (Swift)",
    fileExtensions := [".swift"],
    facade := "MappSdk.shared",
    initialization := iosSwiftInitializer,
    methods := iosSwiftMethods,
    bestPractices := ["Initialize SDK in AppDelegate", "Handle initialization errors properly"],
    errorHandling :=
      { recommendations := ["Use do-catch blocks around SDK calls", "Log initialization failures"],
        sample := "do \x7b\n" ++
          "    try MappSdk.shared.engage(with: config)\n" ++
          "\x7d catch \x7b\n" ++
          "    print(\"Mapp SDK initialization failed: \\(error)\")\n" ++
          "\x7d" },
    requiredMethods := ["engage", "isPushEnabled", "setPushEnabled"],
    methodPatterns := [
      ⟨"engage", "MappSdk\\.shared\\.engage\\s*\\("⟩,
      ⟨"isPushEnabled", "MappSdk\\.shared\\.isPushEnabled"⟩,
      ⟨"setPushEnabled", "MappSdk\\.shared\\.setPushEnabled"⟩] }

def ruleSet : Technology → RuleSet
  | .flutter => flutterRules
  | .reactNative => reactNativeRules
  | .androidKotlin => androidKotlinRules
  | .androidJava => androidJavaRules
  | .iosObjc => iosObjcRules
  | .iosSwift => iosSwiftRules

end SdkAudit.Catalogue
