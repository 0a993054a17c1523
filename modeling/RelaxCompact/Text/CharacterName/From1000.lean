import RelaxCompact.Text.CharacterName.Block

/-!
The names of the characters from U+1000 to U+218F.
-/

namespace RelaxCompact.CharacterName

/-- The names from U+1000 to U+1CFF. -/
def from1000 : List Block :=
  [⟨0x1000, [
    "aMYANMAR LETTER KAcKHAcGAcGHAcNGAcCAcCHAcJAcJHAcNYAcNNYAcTTAcTTHAcDDAcDDHAcNNAcTAcTHAcDA",
    "cDHAcNAcPAcPHAcBAcBHAcMAcYAcRAcLAcWAcSAcHAcLLAcAcSHANqcIcIIcUcUUcEcMONqcOcAU",
    "bVOWEL SIGN TALL AAdqdIdIIdUdUUdEdAIdMON IIeOdE ABOVEbSIGN ANUSVARAcDOT BELOWcVISARGA",
    "cVIRAMAcASATbCONSONANT SIGN MEDIAL YAeRAeWAeHAbLETTER GREAT SAbDIGIT ZEROcONEcTWOcTHREE",
    "cFOURcFIVEcSIXcSEVENcEIGHTcNINEbSIGN LITTLE SECTIONcqbSYMBOL LOCATIVEcCOMPLETED",
    "cAFOREMENTIONEDcGENITIVEbLETTER SHAcSSAcVOCALIC RdRRdLdLLbVOWEL SIGN VOCALIC ReRReLeLL",
    "bLETTER MON NGAdJHAdBBAdBBEbCONSONANT SIGN MON MEDIAL NAfMAfLAbLETTER SGAW KAREN SHA",
    "bVOWEL SIGN SGAW KAREN EUbTONE MARK SGAW KAREN HATHIfKE PHObLETTER WESTERN PWO KAREN THA",
    "fPWAbVOWEL SIGN WESTERN PWO KAREN EUgUEbSIGN WESTERN PWO KAREN TONE-1++++",
    "bLETTER EASTERN PWO KAREN NNAfYWAfGHWAbVOWEL SIGN GEBA KAREN IdKAYAH OEeUeEEbLETTER SHAN KA",
    "dKHAdGAdCAdZAdNYAdDAdNAdPHAdFAdBAdTHAdHAbCONSONANT SIGN SHAN MEDIAL WAbVOWEL SIGN SHAN AAeE",
    "fABOVEeFINAL YbSIGN SHAN TONE-2+dTONE-5+dCOUNCIL TONE-2+eEMPHATIC TONE",
    "bLETTER RUMAI PALAUNG FAbSIGN RUMAI PALAUNG TONE-5bSHAN DIGIT ZEROdONEdTWOdTHREEdFOURdFIVE",
    "dSIXdSEVENdEIGHTdNINEbSIGN KHAMTI TONE-1dTONE-3bVOWEL SIGN AITON AeAIbSYMBOL SHAN ONE",
    "dEXCLAMATIONaGEORGIAN CAPITAL LETTER ANdBANdGANdDONdENdVINdZENdTANdINdKANdLASdMANdNARdON",
    "dPARdZHARdRAEdSANdTARdUNdPHARdKHARdGHANdQARdSHINdCHINdCANdJILdCILdCHARdXANdJHANdHAEdHEdHIE",
    "dWEdHARdHOE"]⟩,
    ⟨0x10C7, ["aGEORGIAN CAPITAL LETTER YN"]⟩, ⟨0x10CD, ["aGEORGIAN CAPITAL LETTER AEN"]⟩,
    ⟨0x10D0, [
    "aGEORGIAN LETTER ANcBANcGANcDONcENcVINcZENcTANcINcKANcLAScMANcNARcONcPARcZHARcRAEcSANcTAR",
    "cUNcPHARcKHARcGHANcQARcSHINcCHINcCANcJILcCILcCHARcXANcJHANcHAEcHEcHIEcWEcHARcHOEcFIcYN",
    "cELIFIcTURNED GANcAINbPARAGRAPH SEPARATORaMODIFIER LETTER GEORGIAN NARaGEORGIAN LETTER AEN",
    "cHARD SIGNcLABIALqaHANGUL CHOSEONG KIYEOKcSSANGKIYEOKcNIEUNcTIKEUTcSSANGTIKEUTcRIEULcMIEUM",
    "cPIEUPcSSANGPIEUPcSIOScSSANGSIOScIEUNGcCIEUCcSSANGCIEUCcCHIEUCHcKHIEUKHcTHIEUTHcPHIEUPH",
    "cHIEUHcNIEUN-KIYEOKcSSANGNIEUNcNIEUN-TIKEUTcNIEUN-PIEUPcTIKEUT-KIYEOKcRIEUL-NIEUN",
    "cSSANGRIEULcRIEUL-HIEUHcKAPYEOUNRIEULcMIEUM-PIEUPcKAPYEOUNMIEUMcPIEUP-KIYEOKcPIEUP-NIEUN",
    "cPIEUP-TIKEUTcPIEUP-SIOScPIEUP-SIOS-KIYEOKcPIEUP-SIOS-TIKEUTcPIEUP-SIOS-PIEUP",
    "cPIEUP-SSANGSIOScPIEUP-SIOS-CIEUCcPIEUP-CIEUCcPIEUP-CHIEUCHcPIEUP-THIEUTHcPIEUP-PHIEUPH",
    "cKAPYEOUNPIEUPcKAPYEOUNSSANGPIEUPcSIOS-KIYEOKcSIOS-NIEUNcSIOS-TIKEUTcSIOS-RIEULcSIOS-MIEUM",
    "cSIOS-PIEUPcSIOS-PIEUP-KIYEOKcSIOS-SSANGSIOScSIOS-IEUNGcSIOS-CIEUCcSIOS-CHIEUCH",
    "cSIOS-KHIEUKHcSIOS-THIEUTHcSIOS-PHIEUPHcSIOS-HIEUHcCHITUEUMSIOScCHITUEUMSSANGSIOS",
    "cCEONGCHIEUMSIOScCEONGCHIEUMSSANGSIOScPANSIOScIEUNG-KIYEOKcIEUNG-TIKEUTcIEUNG-MIEUM",
    "cIEUNG-PIEUPcIEUNG-SIOScIEUNG-PANSIOScSSANGIEUNGcIEUNG-CIEUCcIEUNG-CHIEUCHcIEUNG-THIEUTH",
    "cIEUNG-PHIEUPHcYESIEUNGcCIEUC-IEUNGcCHITUEUMCIEUCcCHITUEUMSSANGCIEUCcCEONGCHIEUMCIEUC",
    "cCEONGCHIEUMSSANGCIEUCcCHIEUCH-KHIEUKHcCHIEUCH-HIEUHcCHITUEUMCHIEUCHcCEONGCHIEUMCHIEUCH",
    "cPHIEUPH-PIEUPcKAPYEOUNPHIEUPHcSSANGHIEUHcYEORINHIEUHcKIYEOK-TIKEUTcNIEUN-SIOScNIEUN-CIEUC",
    "cNIEUN-HIEUHcTIKEUT-RIEULcFILLERbJUNGSEONGqcAcAEcYAcYAEcEOcEcYEOcYEcOcWAcWAEcOEcYOcUcWEOcWE",
    "cWIcYUcEUcYIcIcA-OcA-UcYA-OcYA-YOcEO-OcEO-UcEO-EUcYEO-OcYEO-UcO-EOcO-EcO-YEcO-OcO-UcYO-YA",
    "cYO-YAEcYO-YEOcYO-OcYO-IcU-AcU-AEcU-EO-EUcU-YEcU-UcYU-AcYU-EOcYU-EcYU-YEOcYU-YEcYU-UcYU-I",
    "cEU-UcEU-EUcYI-UcI-AcI-YAcI-OcI-UcI-EUcI-ARAEAcARAEAcARAEA-EOcARAEA-UcARAEA-IcSSANGARAEA",
    "cA-EUcYA-UcYEO-YAcO-YAcO-YAEbJONGSEONG KIYEOKcSSANGKIYEOKcKIYEOK-SIOScNIEUNcNIEUN-CIEUC",
    "cNIEUN-HIEUHcTIKEUTcRIEULcRIEUL-KIYEOKcRIEUL-MIEUMcRIEUL-PIEUPcRIEUL-SIOScRIEUL-THIEUTH",
    "cRIEUL-PHIEUPHcRIEUL-HIEUHcMIEUMcPIEUPcPIEUP-SIOScSIOScSSANGSIOScIEUNGcCIEUCcCHIEUCH",
    "cKHIEUKHcTHIEUTHcPHIEUPHcHIEUHcKIYEOK-RIEULcKIYEOK-SIOS-KIYEOKcNIEUN-KIYEOKcNIEUN-TIKEUT",
    "cNIEUN-SIOScNIEUN-PANSIOScNIEUN-THIEUTHcTIKEUT-KIYEOKcTIKEUT-RIEULcRIEUL-KIYEOK-SIOS",
    "cRIEUL-NIEUNcRIEUL-TIKEUTcRIEUL-TIKEUT-HIEUHcSSANGRIEULcRIEUL-MIEUM-KIYEOKcRIEUL-MIEUM-SIOS",
    "cRIEUL-PIEUP-SIOScRIEUL-PIEUP-HIEUHcRIEUL-KAPYEOUNPIEUPcRIEUL-SSANGSIOScRIEUL-PANSIOS",
    "cRIEUL-KHIEUKHcRIEUL-YEORINHIEUHcMIEUM-KIYEOKcMIEUM-RIEULcMIEUM-PIEUPcMIEUM-SIOS",
    "cMIEUM-SSANGSIOScMIEUM-PANSIOScMIEUM-CHIEUCHcMIEUM-HIEUHcKAPYEOUNMIEUMcPIEUP-RIEUL",
    "cPIEUP-PHIEUPHcPIEUP-HIEUHcKAPYEOUNPIEUPcSIOS-KIYEOKcSIOS-TIKEUTcSIOS-RIEULcSIOS-PIEUP",
    "cPANSIOScIEUNG-KIYEOKcIEUNG-SSANGKIYEOKcSSANGIEUNGcIEUNG-KHIEUKHcYESIEUNGcYESIEUNG-SIOS",
    "cYESIEUNG-PANSIOScPHIEUPH-PIEUPcKAPYEOUNPHIEUPHcHIEUH-NIEUNcHIEUH-RIEULcHIEUH-MIEUM",
    "cHIEUH-PIEUPcYEORINHIEUHcKIYEOK-NIEUNcKIYEOK-PIEUPcKIYEOK-CHIEUCHcKIYEOK-KHIEUKH",
    "cKIYEOK-HIEUHcSSANGNIEUNaETHIOPIC SYLLABLE HAcHUcHIcHAAcHEEcHEcHOcHOAcLAcLUcLIcLAAcLEEcLE",
    "cLOcLWAcHHAcHHUcHHIcHHAAcHHEEcHHEcHHOcHHWAcMAcMUcMIcMAAcMEEcMEcMOcMWAcSZAcSZUcSZIcSZAAcSZEE",
    "cSZEcSZOcSZWAcRAcRUcRIcRAAcREEcREcROcRWAcSAcSUcSIcSAAcSEEcSEcSOcSWAcSHAcSHUcSHIcSHAAcSHEE",
    "cSHEcSHOcSHWAcQAcQUcQIcQAAcQEEcQEcQOcQOAcQWA"]⟩,
    ⟨0x124A, ["aETHIOPIC SYLLABLE QWIcQWAAcQWEEcQWE"]⟩,
    ⟨0x1250, ["aETHIOPIC SYLLABLE QHAcQHUcQHIcQHAAcQHEEcQHEcQHO"]⟩,
    ⟨0x1258, ["aETHIOPIC SYLLABLE QHWA"]⟩, ⟨0x125A, ["aETHIOPIC SYLLABLE QHWIcQHWAAcQHWEEcQHWE"]⟩,
    ⟨0x1260, [
    "aETHIOPIC SYLLABLE BAcBUcBIcBAAcBEEcBEcBOcBWAcVAcVUcVIcVAAcVEEcVEcVOcVWAcTAcTUcTIcTAAcTEE",
    "cTEcTOcTWAcCAcCUcCIcCAAcCEEcCEcCOcCWAcXAcXUcXIcXAAcXEEcXEcXOcXOAcXWA"]⟩,
    ⟨0x128A, ["aETHIOPIC SYLLABLE XWIcXWAAcXWEEcXWE"]⟩,
    ⟨0x1290, [
    "aETHIOPIC SYLLABLE NAcNUcNIcNAAcNEEcNEcNOcNWAcNYAcNYUcNYIcNYAAcNYEEcNYEcNYOcNYWAcGLOTTAL A",
    "dUdIdAAdEEdEdOdWAcKAcKUcKIcKAAcKEEcKEcKOcKOAcKWA"]⟩,
    ⟨0x12B2, ["aETHIOPIC SYLLABLE KWIcKWAAcKWEEcKWE"]⟩,
    ⟨0x12B8, ["aETHIOPIC SYLLABLE KXAcKXUcKXIcKXAAcKXEEcKXEcKXO"]⟩,
    ⟨0x12C0, ["aETHIOPIC SYLLABLE KXWA"]⟩, ⟨0x12C2, ["aETHIOPIC SYLLABLE KXWIcKXWAAcKXWEEcKXWE"]⟩,
    ⟨0x12C8, ["aETHIOPIC SYLLABLE WAcWUcWIcWAAcWEEcWEcWOcWOAcPHARYNGEAL AdUdIdAAdEEdEdO"]⟩,
    ⟨0x12D8, [
    "aETHIOPIC SYLLABLE ZAcZUcZIcZAAcZEEcZEcZOcZWAcZHAcZHUcZHIcZHAAcZHEEcZHEcZHOcZHWAcYAcYUcYI",
    "cYAAcYEEcYEcYOcYOAcDAcDUcDIcDAAcDEEcDEcDOcDWAcDDAcDDUcDDIcDDAAcDDEEcDDEcDDOcDDWAcJAcJUcJI",
    "cJAAcJEEcJEcJOcJWAcGAcGUcGIcGAAcGEEcGEcGOcGOAcGWA"]⟩,
    ⟨0x1312, ["aETHIOPIC SYLLABLE GWIcGWAAcGWEEcGWE"]⟩,
    ⟨0x1318, [
    "aETHIOPIC SYLLABLE GGAcGGUcGGIcGGAAcGGEEcGGEcGGOcGGWAAcTHAcTHUcTHIcTHAAcTHEEcTHEcTHOcTHWA",
    "cCHAcCHUcCHIcCHAAcCHEEcCHEcCHOcCHWAcPHAcPHUcPHIcPHAAcPHEEcPHEcPHOcPHWAcTSAcTSUcTSIcTSAA",
    "cTSEEcTSEcTSOcTSWAcTZAcTZUcTZIcTZAAcTZEEcTZEcTZOcTZOAcFAcFUcFIcFAAcFEEcFEcFOcFWAcPAcPUcPI",
    "cPAAcPEEcPEcPOcPWAcRYAcMYAcFYA"]⟩,
    ⟨0x135D, [
    "aETHIOPIC COMBINING GEMINATION AND VOWEL LENGTH MARKcscGEMINATIONqbSECTIONqbWORDSPACE",
    "bFULL STOPbCOMMAbSEMICOLONbCOLONbPREFACEqbQUESTION MARKbPARAGRAPH SEPARATORbDIGIT ONEcTWO",
    "cTHREEcFOURcFIVEcSIXcSEVENcEIGHTcNINEbNUMBER TENcTWENTYcTHIRTYcFORTYcFIFTYcSIXTYcSEVENTY",
    "cEIGHTYcNINETYcHUNDREDcTEN THOUSAND"]⟩,
    ⟨0x1380, [
    "aETHIOPIC SYLLABLE SEBATBEIT MWAcMWIcMWEEcMWEcSEBATBEIT BWAcBWIcBWEEcBWEcSEBATBEIT FWAcFWI",
    "cFWEEcFWEcSEBATBEIT PWAcPWIcPWEEcPWEbTONAL MARK YIZETdDERETdRIKRIKdSHORTqdDIFATdKENAT",
    "dCHIRETdHIDETdDERET-HIDETdKURT"]⟩,
    ⟨0x13A0, [
    "aCHEROKEE LETTER AcEcIcOcUcVcGAcKAcGEcGIcGOcGUcGVcHAcHEcHIcHOcHUcHVcLAcLEcLIcLOcLUcLVcMAcME",
    "cMIcMOcMUcNAcHNAcNAHcNEcNIcNOcNUcNVcQUAcQUEcQUIcQUOcQUUcQUVcSAcScSEcSIcSOcSUcSVcDAcTAcDEcTE",
    "cDIcTIcDOcDUcDVcDLAcTLAcTLEcTLIcTLOcTLUcTLVcTSAcTSEcTSIcTSOcTSUcTSVcWAcWEcWIcWOcWUcWVcYAcYE",
    "cYIcYOcYUcYVcMV"]⟩,
    ⟨0x13F8, ["aCHEROKEE SMALL LETTER YEdYIdYOdYUdYVdMV"]⟩,
    ⟨0x1400, [
    "aCANADIAN SYLLABICS HYPHENcEcAAIcIcIIcOcOOcY-CREEqcCARRIER EEdIcAcAAcWEcWEST-CREEqcWI",
    "cWEST-CREEqcWIIcWEST-CREEqcWOcWEST-CREEqcWOOcWEST-CREEqcNASKAPIqcWAcWEST-CREEqcWAA",
    "cWEST-CREEqcNASKAPIqcAIcY-CREE WcGLOTTAL STOPcFINAL ACUTEdGRAVEdBOTTOM HALF RINGdTOPr",
    "dRIGHTrdqdDOUBLE ACUTEeSHORT VERTICAL STROKESdMIDDLE DOTdSHORT HORIZONTAL STROKEdPLUS",
    "dDOWN TACKcENcINcONcANcPEcPAAIcPIcPIIcPOcPOOcY-CREEqcCARRIER HEEdHIcPAcPAAcPWEcWEST-CREEq",
    "cPWIcWEST-CREEqcPWIIcWEST-CREEqcPWOcWEST-CREEqcPWOOcWEST-CREEqcPWAcWEST-CREEqcPWAA",
    "cWEST-CREEqcY-CREEqcPcWEST-CREEqcCARRIER HcTEcTAAIcTIcTIIcTOcTOOcY-CREEqcCARRIER DEEdDIcTA",
    "cTAAcTWEcWEST-CREEqcTWIcWEST-CREEqcTWIIcWEST-CREEqcTWOcWEST-CREEqcTWOOcWEST-CREEqcTWA",
    "cWEST-CREEqcTWAAcWEST-CREEqcNASKAPIqcTcTTEcTTIcTTOcTTAcKEcKAAIcKIcKIIcKOcKOOcY-CREEqcKAcKAA",
    "cKWEcWEST-CREEqcKWIcWEST-CREEqcKWIIcWEST-CREEqcKWOcWEST-CREEqcKWOOcWEST-CREEqcKWA",
    "cWEST-CREEqcKWAAcWEST-CREEqcNASKAPIqcKcKWcSOUTH-SLAVEY KEHdKIHdKOHdKAHcCEcCAAIcCIcCIIcCO",
    "cCOOcY-CREEqcCAcCAAcCWEcWEST-CREEqcCWIcWEST-CREEqcCWIIcWEST-CREEqcCWOcWEST-CREEqcCWOO",
    "cWEST-CREEqcCWAcWEST-CREEqcCWAAcWEST-CREEqcNASKAPIqcCcSAYISI THcMEcMAAIcMIcMIIcMOcMOO",
    "cY-CREEqcMAcMAAcMWEcWEST-CREEqcMWIcWEST-CREEqcMWIIcWEST-CREEqcMWOcWEST-CREEqcMWOO",
    "cWEST-CREEqcMWAcWEST-CREEqcMWAAcWEST-CREEqcNASKAPIqcMcWEST-CREEqcMHcATHAPASCAN McSAYISIqcNE",
    "cNAAIcNIcNIIcNOcNOOcY-CREEqcNAcNAAcNWEcWEST-CREEqcNWAcWEST-CREEqcNWAAcWEST-CREEqcNASKAPIqcN",
    "cCARRIER NGcNHcLEcLAAIcLIcLIIcLOcLOOcY-CREEqcLAcLAAcLWEcWEST-CREEqcLWIcWEST-CREEqcLWII",
    "cWEST-CREEqcLWOcWEST-CREEqcLWOOcWEST-CREEqcLWAcWEST-CREEqcLWAAcWEST-CREEqcLcWEST-CREEq",
    "cMEDIALqcSEcSAAIcSIcSIIcSOcSOOcY-CREEqcSAcSAAcSWEcWEST-CREEqcSWIcWEST-CREEqcSWIIcWEST-CREEq",
    "cSWOcWEST-CREEqcSWOOcWEST-CREEqcSWAcWEST-CREEqcSWAAcWEST-CREEqcNASKAPIqcScATHAPASCANqcSW",
    "cBLACKFOOT ScMOOSE-CREE SKcNASKAPI SKWdS-WdSPWAdSTWAdSKWAdSCWAcSHEcSHIcSHIIcSHOcSHOOcSHA",
    "cSHAAcSHWEcWEST-CREEqcSHWIcWEST-CREEqcSHWIIcWEST-CREEqcSHWOcWEST-CREEqcSHWOOcWEST-CREEq",
    "cSHWAcWEST-CREEqcSHWAAcWEST-CREEqcSHcYEcYAAIcYIcYIIcYOcYOOcY-CREEqcYAcYAAcYWEcWEST-CREEq",
    "cYWIcWEST-CREEqcYWIIcWEST-CREEqcYWOcWEST-CREEqcYWOOcWEST-CREEqcYWAcWEST-CREEqcYWAA",
    "cWEST-CREEqcNASKAPIqcYcBIBLE-CREEqcWEST-CREEqcSAYISI YIcREcR-CREEqcWEST-CREE LEcRAAIcRIcRII",
    "cROcROOcWEST-CREE LOcRAcRAAcWEST-CREE LAcRWAAcWEST-CREEqcRcWEST-CREEqcMEDIALqcFEcFAAIcFI",
    "cFIIcFOcFOOcFAcFAAcFWAAcWEST-CREEqcFcTHEcN-CREEqcTHIcN-CREEqcTHIIcN-CREEqcTHOcTHOOcTHAcTHAA",
    "cTHWAAcWEST-CREEqcTHcTTHEcTTHIcTTHOcTTHAcTTHcTYEcTYIcTYOcTYAcNUNAVIK HEdHIdHIIdHOdHOOdHA",
    "dHAAdHcNUNAVUTqcHKcQAAIcQIcQIIcQOcQOOcQAcQAAcQcTLHEcTLHIcTLHOcTLHAcWEST-CREE REdRIdROdRA",
    "cNGAAIcNGIcNGIIcNGOcNGOOcNGAcNGAAcNGcNNGcSAYISI SHEdSHIdSHOdSHAcWOODS-CREE THEdTHIdTHOdTHA",
    "dTHcLHIcLHIIcLHOcLHOOcLHAcLHAAcLHcTH-CREE THEdTHIdTHIIdTHOdTHOOdTHAdTHAAdTHcAIVILIK B",
    "cBLACKFOOT EdIdOdAdWEdWIdWOdWAdNEdNIdNOdNAdKEdKIdKOdKAcSAYISI HEdHIdHOdHAcCARRIER GHUdGHO",
    "dGHEdGHEEdGHIdGHAdRUdROdREdREEdRIdRAdWUdWOdWEdWEEdWIdWAdHWUdHWOdHWEdHWEEdHWIdHWAdTHUdTHO",
    "dTHEdTHEEdTHIdTHAdTTUdTTOdTTEdTTEEdTTIdTTAdPUdPOdPEdPEEdPIdPAdPdGUdGOdGEdGEEdGIdGAdKHUdKHO",
    "dKHEdKHEEdKHIdKHAdKKUdKKOdKKEdKKEEdKKIdKKAdKKdNUdNOdNEdNEEdNIdNAdMUdMOdMEdMEEdMIdMAdYUdYO",
    "dYEdYEEdYIdYAdJUcSAYISIqcCARRIER JOdJEdJEEdJIcSAYISIqcCARRIER JAdJJUdJJOdJJEdJJEEdJJIdJJA",
    "dLUdLOdLEdLEEdLIdLAdDLUdDLOdDLEdDLEEdDLIdDLAdLHUdLHOdLHEdLHEEdLHIdLHAdTLHUdTLHOdTLHEdTLHEE",
    "dTLHIdTLHAdTLUdTLOdTLEdTLEEdTLIdTLAdZUdZOdZEdZEEdZIdZAdZdINITIALqdDZUdDZOdDZEdDZEEdDZIdDZA",
    "dSUdSOdSEdSEEdSIdSAdSHUdSHOdSHEdSHEEdSHIdSHAdSHdTSUdTSOdTSEdTSEEdTSIdTSAdCHUdCHOdCHEdCHEE",
    "dCHIdCHAdTTSUdTTSOdTTSEdTTSEEdTTSIdTTSAcCHI SIGNcFULL STOPcQAIcNGAIcNNGIcNNGIIcNNGOcNNGOO",
    "cNNGAcNNGAAcWOODS-CREE THWEEdTHWIdTHWIIdTHWOdTHWOOdTHWAdTHWAAdFINAL THcBLACKFOOT W",
    "aOGHAM SPACE MARKbLETTER BEITHcLUIScFEARNcSAILcNIONcUATHcDAIRcTINNEcCOLLcCEIRTcMUINcGORT",
    "cNGEADALcSTRAIFcRUIScAILMcONNcURcEADHADHcIODHADHcEABHADHcORcUILLEANNcIFINcEAMHANCHOLLcPEITH",
    "bFEATHER MARKbREVERSEDr"]⟩,
    ⟨0x16A0, [
    "aRUNIC LETTER FEHU FEOH FE FcVcURUZ UR UcYRcYcWcTHURISAZ THURS THORNcETHcANSUZ AcOS OcAC A",
    "cAESCcLONG-BRANCH-OSS OcSHORT-TWIG-OSSqcqcOEcONcRAIDO RAD REID RcKAUNAcCENcKAUN KcGcENG",
    "cGEBO GYFU GcGARcWUNJO WYNN WcHAGLAZ HcHAEGLqcLONG-BRANCH-HAGALLqcSHORT-TWIG-HAGALLq",
    "cNAUDIZ NYD NAUD NcSHORT-TWIG-NAUDqcDOTTED-NcISAZ IS ISS IcEcJERAN JcGERcLONG-BRANCH-AR AE",
    "cSHORT-TWIG-AR AcIWAZ EOHcPERTHO PEORTH PcALGIZ EOLHXcSOWILO ScSIGEL LONG-BRANCH-SOLq",
    "cSHORT-TWIG-SOLqcCcZcTIWAZ TIR TYR TcSHORT-TWIG-TYRqcDcBERKANAN BEORC BJARKAN B",
    "cSHORT-TWIG-BJARKANqcDOTTED-PcOPEN-PcEHWAZ EH EcMANNAZ MAN McLONG-BRANCH-MADRq",
    "cSHORT-TWIG-MADRqcLAUKAZ LAGU LOGR LcDOTTED-LcINGWAZcINGcDAGAZ DAEG DcOTHALAN ETHEL OcEAR",
    "cIORcCWEORTHcCALCcCEALCcSTANcLONG-BRANCH-YRcSHORT-TWIG-YRcICELANDIC-YRcQcX",
    "bSINGLE PUNCTUATIONbMULTIPLEqbCROSSqbARLAUG SYMBOLbTVIMADURqbBELGTHORqbLETTER KcSHcOO",
    "cFRANKS CASKET OSeISeEHeACeAESC"]⟩,
    ⟨0x1700, [
    "aTAGALOG LETTER AcIcUcKAcGAcNGAcTAcDAcNAcPAcBAcMAcYAcRAcLAcWAcSAcHAbVOWEL SIGN IdU",
    "bSIGN VIRAMAcPAMUDPOD"]⟩,
    ⟨0x171F, [
    "aTAGALOG LETTER ARCHAIC RAaHANUNOO LETTER AcIcUcKAcGAcNGAcTAcDAcNAcPAcBAcMAcYAcRAcLAcWAcSA",
    "cHAbVOWEL SIGN IdUbSIGN PAMUDPODaPHILIPPINE SINGLE PUNCTUATIONbDOUBLEq"]⟩,
    ⟨0x1740, ["aBUHID LETTER AcIcUcKAcGAcNGAcTAcDAcNAcPAcBAcMAcYAcRAcLAcWAcSAcHAbVOWEL SIGN IdU"]⟩,
    ⟨0x1760, ["aTAGBANWA LETTER AcIcUcKAcGAcNGAcTAcDAcNAcPAcBAcMAcYA"]⟩,
    ⟨0x176E, ["aTAGBANWA LETTER LAcWAcSA"]⟩, ⟨0x1772, ["aTAGBANWA VOWEL SIGN IdU"]⟩,
    ⟨0x1780, [
    "aKHMER LETTER KAcKHAcKOcKHOcNGOcCAcCHAcCOcCHOcNYOcDAcTTHAcDOcTTHOcNNOcTAcTHAcTOcTHOcNOcBA",
    "cPHAcPOcPHOcMOcYOcROcLOcVOcSHAcSSOcSAcHAcLAcQAbINDEPENDENT VOWEL QAQdQAAdQIdQIIdQUdQUKdQUU",
    "dQUUVdRYdRYYdLYdLYYdQEdQAIdQOO TYPE ONEfTWOdQAUbVOWEL INHERENT AQdAAcSIGNqdIdIIdYdYYdUdUU",
    "dUAdOEdYAdIEdEdAEdAIdOOdAUbSIGN NIKAHITcREAHMUKcYUUKALEAPINTUcMUUSIKATOANcTRIISAPcBANTOC",
    "cROBATcTOANDAKHIATcKAKABATcAHSDAcSAMYOK SANNYAcVIRIAMcCOENGcBATHAMASATcKHANcBARIYOOSAN",
    "cCAMNUC PII KUUHcLEK TOOcBEYYALcPHNAEK MUANcKOOMUUTbCURRENCY SYMBOL RIELbSIGN AVAKRAHASANYA",
    "cATTHACAN"]⟩,
    ⟨0x17E0, ["aKHMER DIGIT ZEROcONEcTWOcTHREEcFOURcFIVEcSIXcSEVENcEIGHTcNINE"]⟩,
    ⟨0x17F0, [
    "aKHMER SYMBOL LEK ATTAK SONeMUOYePIIeBEIeBUONePRAMePRAM-MUOYePRAM-PIIePRAM-BEIePRAM-BUON"]⟩,
    ⟨0x1800, [
    "aMONGOLIAN BIRGAbELLIPSISbCOMMAbFULL STOPbCOLONbFOUR DOTSbTODO SOFT HYPHEN",
    "bSIBE SYLLABLE BOUNDARY MARKERbMANCHU COMMAcFULL STOPbNIRUGUbFREE VARIATION SELECTOR ONE",
    "eTWOeTHREEbVOWEL SEPARATORbFREE VARIATION SELECTOR FOURbDIGIT ZEROcONEcTWOcTHREEcFOURcFIVE",
    "cSIXcSEVENcEIGHTcNINE"]⟩,
    ⟨0x1820, [
    "aMONGOLIAN LETTER AcEcIcOcUcOEcUEcEEcNAcANGcBAcPAcQAcGAcMAcLAcSAcSHAcTAcDAcCHAcJAcYAcRAcWA",
    "cFAcKAcKHAcTSAcZAcHAAcZRAcLHAcZHIcCHIcTODO LONG VOWEL SIGNdEdIdOdUdOEdUEdANGdBAdPAdQAdGAdMA",
    "dTAdDAdCHAdJAdTSAdYAdWAdKAdGAAdHAAdJIAdNIAdDZAcSIBE EdIdIYdUEdUdANGdKAdGAdHAdPAdSHAdTAdDA",
    "dJAdFAdGAAdHAAdTSAdZAdRAAdCHAdZHAcMANCHU IdKAdRAdFAdZHAcCHA WITH TWO DOTS"]⟩,
    ⟨0x1880, [
    "aMONGOLIAN LETTER ALI GALI ANUSVARA ONEeVISARGAqeDAMARUeUBADAMAeINVERTEDqeBALUDAeTHREEqeAeI",
    "eKAeNGAeCAeTTAeTTHAeDDAeNNAeTAeDAePAePHAeSSAeZHAeZAeAHcTODO ALI GALI TAfZHA",
    "cMANCHU ALI GALI GHAfNGAfCAfJHAfTTAfDDHAfTAfDHAfSSAfCYAfZHAfZAcALI GALI HALF UfYA",
    "cMANCHU ALI GALI BHAcALI GALI DAGALGAcMANCHU ALI GALI LHA"]⟩,
    ⟨0x18B0, [
    "aCANADIAN SYLLABICS OYcAYcAAYcWAYcPOYcPAYcPWOYcTAYcKAYcKWAYcMAYcNOYcNAYcLAYcSOYcSAYcSHOY",
    "cSHAYcSHWOYcYOYcYAYcRAYcNWIcOJIBWAYqcNWIIcOJIBWAYqcNWOcOJIBWAYqcNWOOcOJIBWAYqcRWEEcRWIcRWII",
    "cRWOcRWOOcRWAcOJIBWAY PdTdKdCdMdNdSdSHcEASTERN WcWESTERNqcFINAL SMALL RINGdRAISED DOT",
    "cR-CREE RWEcWEST-CREE LOOdLAAcTHWEcTHWAcTTHWEcTTHOOcTTHAAcTLHWEcTLHOOcSAYISI SHWEdSHOOdHOO",
    "cCARRIER GWUdDENE GEEdGAAdGWAcSAYISI JUUcCARRIER JWAcBEAVER DENE LeRcCARRIER DENTAL S"]⟩,
    ⟨0x1900, [
    "aLIMBU VOWEL-CARRIER LETTERbLETTER KAcKHAcGAcGHAcNGAcCAcCHAcJAcJHAcYANcTAcTHAcDAcDHAcNAcPA",
    "cPHAcBAcBHAcMAcYAcRAcLAcWAcSHAcSSAcSAcHAcGYANcTRA"]⟩,
    ⟨0x1920, ["aLIMBU VOWEL SIGN AdIdUdEEdAIdOOdAUdEdObSUBJOINED LETTER YAdRAdWA"]⟩,
    ⟨0x1930, [
    "aLIMBU SMALL LETTER KAdNGAdANUSVARAdTAdNAdPAdMAdRAdLAbSIGN MUKPHRENGcKEMPHRENGcSA-I"]⟩,
    ⟨0x1940, ["aLIMBU SIGN LOO"]⟩,
    ⟨0x1944, [
    "aLIMBU EXCLAMATION MARKbQUESTIONqbDIGIT ZEROcONEcTWOcTHREEcFOURcFIVEcSIXcSEVENcEIGHTcNINE",
    "aTAI LE LETTER KAdXAdNGAdTSAdSAdYAdTAdTHAdLAdPAdPHAdMAdFAdVAdHAdQAdKHAdTSHAdNAdAdIdEEdEHdU",
    "dOOdOdUEdEdAUEdAI"]⟩,
    ⟨0x1970, ["aTAI LE LETTER TONE-2++++"]⟩,
    ⟨0x1980, [
    "aNEW TAI LUE LETTER HIGH QAeLOWqeHIGH KAfXAfNGAeLOW KAfXAfNGAeHIGH TSAfSAfYAeLOW TSAfSAfYA",
    "eHIGH TAfTHAfNAeLOW TAfTHAfNAeHIGH PAfPHAfMAeLOW PAfPHAfMAeHIGH FAfVAfLAeLOW FAfVAfLA",
    "eHIGH HAfDAfBAeLOW HAfDAfBAeHIGH KVAfXVAeLOW KVAfXVAeHIGH SUAeLOWq"]⟩,
    ⟨0x19B0, [
    "aNEW TAI LUE VOWEL SIGN VOWEL SHORTENERfAAfIIfUfUUfEfAEfOfOAfUEfAYfAAYfUYfOYfOAYfUEYfIY",
    "dLETTER FINAL VfNGfNfMfKfDfBdTONE MARK-1+"]⟩,
    ⟨0x19D0, [
    "aNEW TAI LUE DIGIT ZEROeONEeTWOeTHREEeFOUReFIVEeSIXeSEVENeEIGHTeNINEdTHAM DIGIT ONE"]⟩,
    ⟨0x19DE, [
    "aNEW TAI LUE SIGN LAEeLAEVaKHMER SYMBOL PATHAMASATcMUOY KOETcPIIqcBEIqcBUONqcPRAMq",
    "cPRAM-MUOYqcPRAM-PIIqcPRAM-BEIqcPRAM-BUONqcDAPqcDAP-MUOYqcDAP-PIIqcDAP-BEIqcDAP-BUONq",
    "cDAP-PRAMqcTUTEYASATcMUOY ROCcPIIqcBEIqcBUONqcPRAMqcPRAM-MUOYqcPRAM-PIIqcPRAM-BEIq",
    "cPRAM-BUONqcDAPqcDAP-MUOYqcDAP-PIIqcDAP-BEIqcDAP-BUONqcDAP-PRAMqaBUGINESE LETTER KAcGAcNGA",
    "cNGKAcPAcBAcMAcMPAcTAcDAcNAcNRAcCAcJAcNYAcNYCAcYAcRAcLAcVAcSAcAcHAbVOWEL SIGN IdUdEdOdAE"]⟩,
    ⟨0x1A1E, [
    "aBUGINESE PALLAWAbEND OF SECTIONaTAI THAM LETTER HIGH KAeKHAeKXAdLOW KAeKXAeKHAdNGAdHIGH CA",
    "eCHAdLOW CAeSAeCHAdNYAdRATAdHIGH RATHAdDAdLOW RATHAdRANAdHIGH TAeTHAdLOW TAeTHAdNAdBA",
    "dHIGH PAePHAeFAdLOW PAeFAePHAdMAdLOW YAdHIGHqdRAdRUEdLAdLUEdWAdHIGH SHAeSSAeSAeHAdLLAdA",
    "dLOW HAdIdIIdUdUUdEEdOOdLAEdGREAT SAcCONSONANT SIGN MEDIAL RAfLAeLA TANG LAIcSIGN MAI KANGq",
    "cCONSONANT SIGN FINAL NGAeLOW PAeHIGH RATHA ORreMAeBAeSA"]⟩,
    ⟨0x1A60, [
    "aTAI THAM SIGN SAKOTcVOWEL SIGN AeMAI SATeAAeTALLqeIeIIeUEeUUEeUeUUeOeOA BELOWeOYeEeAEeOO",
    "eAIeTHAMqeOA ABOVEcSIGN MAI KANGdTONE-1+dKHUEN TONE-3++dRA HAAMdMAI SAMdKHUEN-LUE KARAN"]⟩,
    ⟨0x1A7F, [
    "aTAI THAM COMBINING CRYPTOGRAMMIC DOTcHORA DIGIT ZEROeONEeTWOeTHREEeFOUReFIVEeSIXeSEVEN",
    "eEIGHTeNINE"]⟩,
    ⟨0x1A90, ["aTAI THAM THAM DIGIT ZEROeONEeTWOeTHREEeFOUReFIVEeSIXeSEVENeEIGHTeNINE"]⟩,
    ⟨0x1AA0, [
    "aTAI THAM SIGN WIANGdWIANGWAAKdSAWANdKEOWdHOYdDOKMAIdREVERSED ROTATED RANAdMAI YAMOKdKAAN",
    "dKAANKUUdSATKAANdSATKAANKUUdHANGdCAANG"]⟩,
    ⟨0x1AB0, [
    "aCOMBINING DOUBLED CIRCUMFLEX ACCENTbDIAERESIS-RINGbINFINITYbDOWNWARDS ARROWbTRIPLE DOT",
    "bX-X BELOWbWIGGLY LINEqbOPEN MARKqbDOUBLEsbLIGHT CENTRALIZATION STROKEqbSTRONGs",
    "bPARENTHESES ABOVEbDOUBLErbPARENTHESES BELOWcOVERLAYbLATIN SMALL LETTER W BELOWeTURNEDr",
    "bLEFT PARENTHESIS ABOVE LEFTbRIGHT PARENTHESIS ABOVE RIGHTbLEFT PARENTHESIS BELOW LEFT",
    "bRIGHT PARENTHESIS BELOW RIGHTbSQUARE BRACKETS ABOVEbNUMBER SIGNqbINVERTED DOUBLE ARCHq",
    "bPLUS SIGNqbDOUBLEseBELOWbTRIPLE ACUTE ACCENTbLATIN SMALL LETTER INSULAR GfRfT"]⟩,
    ⟨0x1B00, [
    "aBALINESE SIGN ULU RICEMdCANDRAcCECEKcSURANGcBISAHbLETTER AKARAdTEDUNGcIKARAdTEDUNGcUKARA",
    "dTEDUNGcRA REPAeTEDUNGcLA LENGAeTEDUNGcEKARAcAIKARAcOKARAdTEDUNGcKAdMAHAPRANAcGAdGORAcNGA",
    "cCAdLACAcJAdJERAcNYAcTA LATIKdMURDA MAHAPRANAcDA MURDA ALPAPRANAeMAHAPRANAcNA RAMBATcTA",
    "dTAWAcDAdMADUcNAcPAdKAPALcBAdKEMBANGcMAcYAcRAcLAcWAcSA SAGAdSAPAdcHAbSIGN REREKAN",
    "bVOWEL SIGN TEDUNGdULUeSARIdSUKUeILUTdRA REPAfTEDUNGdLA LENGAfTEDUNGdTALINGeREPAeTEDUNG",
    "eREPAqdPEPETeTEDUNGbADEG ADEGbLETTER KAF SASAKcKHOTqcTZIRqcEFqcVEqcZALqcASYURAq",
    "cARCHAIC JNYA"]⟩,
    ⟨0x1B50, [
    "aBALINESE DIGIT ZEROcONEcTWOcTHREEcFOURcFIVEcSIXcSEVENcEIGHTcNINEbPANTIbPAMADAbWINDU",
    "bCARIK PAMUNGKAHcSIKIcPARERENbPAMENENGbMUSICAL SYMBOL DONGdDENGdDUNGdDANGeSURANGdDINGdDAENG",
    "dDEUNGdDAINGdDANG GEDEdCOMBINING TEGEHeENDEPeKEMPULeKEMPLIeJEGOGANeKEMPUL WITHqeKEMPLIr",
    "eBENDEeGONGdRIGHT-HAND OPEN DUGfDAGeCLOSED TUKfTAKdLEFT-HAND OPEN PANGfPUNGeCLOSED PLAK",
    "fPLUKeOPEN PINGbPANTI LANTANGbPAMADAq"]⟩,
    ⟨0x1B80, [
    "aSUNDANESE SIGN PANYECEKcPANGLAYARcPANGWISADbLETTER AcIcUcAEcOcEcEUcKAcQAcGAcNGAcCAcJAcZA",
    "cNYAcTAcDAcNAcPAcFAcVAcBAcMAcYAcRAcLAcWAcSAcXAcHAbCONSONANT SIGN PAMINGKALdPANYAKRAdPANYIKU",
    "bVOWEL SIGN PANGHULUdPANYUKUdPANAELAENGdPANOLONGdPAMEPETdPANEULEUNGbSIGN PAMAAEHcVIRAMA",
    "bCONSONANT SIGN PASANGAN MAeWAbLETTER KHAcSYAbDIGIT ZEROcONEcTWOcTHREEcFOURcFIVEcSIXcSEVEN",
    "cEIGHTcNINEbAVAGRAHAbLETTER REUcLEUcBHAcFINAL KdMaBATAK LETTER AcSIMALUNGUNqcHAcSIMALUNGUNq",
    "cMANDAILINGqcBAcKAROqcPAcSIMALUNGUNqcNAcMANDAILINGqcWAcSIMALUNGUNqcPAKPAKqcGAcSIMALUNGUNq",
    "cJAcDAcRAcSIMALUNGUNqcMAcSIMALUNGUNqcSOUTHERN TAcNORTHERNqcSAcSIMALUNGUNqcMANDAILINGqcYA",
    "cSIMALUNGUNqcNGAcLAcSIMALUNGUNqcNYAcCAcNDAcMBAcIcUbSIGN TOMPIbVOWEL SIGN EdPAKPAKqdEEdI",
    "dKAROqdOdKAROqdUeFOR SIMALUNGUN SAbCONSONANT SIGN NGdHbPANGOLATbPANONGONAN"]⟩,
    ⟨0x1BFC, [
    "aBATAK SYMBOL BINDU NA METEKdPINARBORASdJUDULdPANGOLATaLEPCHA LETTER KAcKLAcKHAcGAcGLAcNGA",
    "cCAcCHAcJAcNYAcTAcTHAcDAcNAcPAcPLAcPHAcFAcFLAcBAcBLAcMAcMLAcTSAcTSHAcDZAcYAcRAcLAcHAcHLAcVA",
    "cSAcSHAcWAcAbSUBJOINED LETTER YAdRAbVOWEL SIGN AAdIdOdOOdUdUUdEbCONSONANT SIGN KdMdLdNdPdR",
    "dTdNYIN-DOdKANGbSIGN RANcNUKTA"]⟩,
    ⟨0x1C3B, [
    "aLEPCHA PUNCTUATION TA-ROLcNYET THYOOMqcCER-WAcTSHOOKqdbDIGIT ZEROcONEcTWOcTHREEcFOURcFIVE",
    "cSIXcSEVENcEIGHTcNINE"]⟩,
    ⟨0x1C4D, [
    "aLEPCHA LETTER TTAcTTHAcDDAaOL CHIKI DIGIT ZEROdONEdTWOdTHREEdFOURdFIVEdSIXdSEVENdEIGHT",
    "dNINEcLETTER LAdATdAGdANGdALdLAAdAAKdAAJdAAMdAAWdLIdISdIHdINYdIRdLUdUCdUDdUNNdUYdLEdEPdEDD",
    "dENdERRdLOdOTTdOBdOVdOHcMU TTUDDAGcGAAHLAA TTUDDAAGcMU-GAAHLAAqcRELAAcPHAARKAAcAHAD",
    "cPUNCTUATION MUCAADdDOUBLEqaCYRILLIC SMALL LETTER ROUNDED VEdLONG-LEGGED DEdNARROW O",
    "dWIDE ESdTALL TEdTHREE-LEGGEDqdTALL HARD SIGNeYATdUNBLENDED UK"]⟩,
    ⟨0x1C90, [
    "aGEORGIAN MTAVRULI CAPITAL LETTER ANeBANeGANeDONeENeVINeZENeTANeINeKANeLASeMANeNAReONePAR",
    "eZHAReRAEeSANeTAReUNePHAReKHAReGHANeQAReSHINeCHINeCANeJILeCILeCHAReXANeJHANeHAEeHEeHIEeWE",
    "eHAReHOEeFIeYNeELIFIeTURNED GANeAIN"]⟩,
    ⟨0x1CBD, [
    "aGEORGIAN MTAVRULI CAPITAL LETTER AENeHARD SIGNeLABIALqaSUNDANESE PUNCTUATION BINDU SURYA",
    "dPANGLONGdPURNAMAdCAKRAdLEU SATANGAdKAqdDAqdBAq"]⟩,
    ⟨0x1CD0, [
    "aVEDIC TONE KARSHANAcSHARAcPRENKHAbSIGN NIHSHVASAcYAJURVEDIC MIDLINE SVARITA",
    "bTONE YAJURVEDIC AGGRAVATED INDEPENDENTqdrdKATHAKArcCANDRA BELOW",
    "cYAJURVEDIC KATHAKA INDEPENDENT SVARITA SCHROEDERcDOUBLE SVARITAcTRIPLEqcKATHAKA ANUDATTA",
    "cDOT BELOWcTWO DOTSqcTHREErcRIGVEDIC KASHMIRI INDEPENDENT SVARITAcATHARVAVEDICr",
    "bSIGN VISARGAqdUDATTAcREVERSEDrcVISARGA ANUDATTAcREVERSEDrcVISARGA UDATTA WITH TAIL",
    "dANUDATTArcANUSVARA ANTARGOMUKHAdBAHIRGOMUKHAdVAMAGOMUKHAeWITH TAILcTIRYAK",
    "cHEXIFORM LONG ANUSVARAcrcRTHANGrcANUSVARA UBHAYATO MUKHAcARDHAVISARGAcROTATEDq",
    "bTONE CANDRA ABOVEbSIGN JIHVAMULIYAcUPADHMANIYAcATIKRAMAbTONE RING ABOVEcDOUBLEr",
    "bSIGN DOUBLE ANUSVARA ANTARGOMUKHA"]⟩]

/-- The names from U+1D00 to U+218F. -/
def from1D00 : List Block :=
  [⟨0x1D00, [
    "aLATIN LETTER SMALL CAPITAL AeAEbSMALL LETTER TURNEDqbLETTER SMALL CAPITAL BARRED BeCeDeETH",
    "eEbSMALL LETTER TURNED OPENqeIbLETTER SMALL CAPITAL JeKeL WITH STROKEeMeREVERSED NeOeOPENq",
    "bSMALL LETTER SIDEWAYSqeOPENqeO WITH STROKEdTURNED OEbLETTER SMALL CAPITAL OU",
    "bSMALL LETTER TOP HALF OdBOTTOMrbLETTER SMALL CAPITAL PeREVERSED ReTURNEDqeTeU",
    "bSMALL LETTER SIDEWAYSqeDIAERESIZEDqeTURNED MbLETTER SMALL CAPITAL VeWeZeEZH",
    "cVOICED LARYNGEAL SPIRANTcAINaGREEK LETTER SMALL CAPITAL GAMMAeLAMDAePIeRHOePSI",
    "aCYRILLIC LETTER SMALL CAPITAL ELaMODIFIER LETTER CAPITAL AdAEdBdBARREDqdDdEdREVERSEDqdGdH",
    "dIdJdKdLdMdNdREVERSEDqdOdOUdPdRdTdUdWcSMALL AdTURNEDqdALPHAdTURNED AEdBdDdEdSCHWAdOPEN E",
    "dTURNEDrdGdTURNED IdKdMdENGdOdOPENqdTOP HALFqdBOTTOMrdPdTdUdSIDEWAYSqdTURNED MdVdAINdBETA",
    "dGREEK GAMMAdDELTAdGREEK PHIdCHIaLATIN SUBSCRIPT SMALL LETTER IeReUeV",
    "aGREEK SUBSCRIPT SMALL LETTER BETAeGAMMAeRHOePHIeCHIaLATIN SMALL LETTER UE",
    "dB WITH MIDDLE TILDEdDsdFsdMsdNsdPsdRsfFISHHOOK ANDrdS WITHrdTsdZsdTURNED G",
    "aMODIFIER LETTER CYRILLIC ENaLATIN SMALL LETTER INSULAR GdTH WITH STRIKETHROUGH",
    "cCAPITAL LETTER I WITH STROKEcLETTER IOTArdPrcCAPITAL LETTER UrcLETTER UPSILONr",
    "dB WITH PALATAL HOOKdDsdFsdGsdKsdLsdMsdNsdPsdRsdSsdESHsdVsdXsdZsdA WITH RETROFLEXqdALPHAs",
    "dD WITH HOOK AND TAILdE WITH RETROFLEX HOOKdOPENtdREVERSEDudSCHWAsdIsdOPEN OsdESHsdUsdEZHs",
    "aMODIFIER LETTER SMALL TURNED ALPHAdCeWITH CURLdETHdREVERSED OPEN EdFdDOTLESS J WITH STROKE",
    "dSCRIPT GdTURNED HdI WITH STROKEdIOTAdCAPITAL IfWITH STROKEdJ WITH CROSSED-TAIL",
    "dL WITH RETROFLEX HOOKfPALATALqdCAPITAL LdM WITH HOOKdTURNED M WITH LONG LEG",
    "dN WITH LEFT HOOKfRETROFLEXqdCAPITAL NdBARRED OdPHIdS WITH HOOKdESHdT WITH PALATAL HOOK",
    "dU BARdUPSILONdCAPITAL UdV WITH HOOKdTURNED VdZeWITH RETROFLEX HOOKfCURLdEZHdTHETA",
    "aCOMBINING DOTTED GRAVE ACCENTcACUTEqbSNAKE BELOWbSUSPENSION MARKbMACRON-ACUTEbGRAVE-MACRON",
    "bMACRON-GRAVEbACUTE-MACRONbGRAVE-ACUTE-GRAVEbACUTE-GRAVE-ACUTEbLATIN SMALL LETTER R BELOW",
    "bBREVE-MACRONbMACRON-BREVEbDOUBLE CIRCUMFLEX ABOVEbOGONEKqbZIGZAG BELOWbISqbUR ABOVEbUSq",
    "bLATIN SMALL LETTER FLATTENED OPEN AqeAEeAOeAVeC CEDILLAeINSULAR DeETHeG",
    "cLETTER SMALL CAPITALqcSMALL LETTER KeLcLETTER SMALL CAPITALqfMcSMALL LETTER N",
    "cLETTER SMALL CAPITALqfRcSMALL LETTER R ROTUNDAeSeLONGqeZeALPHAeBeBETAeSCHWAeF",
    "eL WITH DOUBLE MIDDLE TILDEeO WITH LIGHT CENTRALIZATION STROKEePeESH",
    "eU WITH LIGHT CENTRALIZATION STROKEeWeA WITH DIAERESISeOreUrbUP TACK ABOVE",
    "bKAVYKA ABOVE RIGHTdLEFTbDOTrbWIDE INVERTED BRIDGE BELOWbDOT BELOW LEFTbDELETION MARK",
    "bDOUBLE INVERTED BREVE BELOWbALMOST EQUAL TOqbLEFT ARROWHEAD ABOVE",
    "bRIGHT ARROWHEAD AND DOWN ARROWHEAD BELOWaLATIN CAPITAL LETTER A WITH RINGqbSMALLu",
    "bCAPITAL LETTER B WITH DOT ABOVEbSMALLubCAPITAL LETTER B WITH DOT BELOWbSMALLu",
    "bCAPITAL LETTER B WITH LINEqbSMALLubCAPITAL LETTER C WITH CEDILLA AND ACUTEbSMALLv",
    "bCAPITAL LETTER D WITH DOT ABOVEbSMALLubCAPITAL LETTER D WITH DOT BELOWbSMALLu",
    "bCAPITAL LETTER D WITH LINEqbSMALLubCAPITAL LETTER D WITH CEDILLAbSMALLt",
    "bCAPITAL LETTER D WITH CIRCUMFLEX BELOWbSMALLubCAPITAL LETTER E WITH MACRON AND GRAVE",
    "bSMALLvbCAPITAL LETTER E WITH MACRON AND ACUTEbSMALLv",
    "bCAPITAL LETTER E WITH CIRCUMFLEX BELOWbSMALLubCAPITAL LETTER E WITH TILDEqbSMALLu",
    "bCAPITAL LETTER E WITH CEDILLA AND BREVEbSMALLvbCAPITAL LETTER F WITH DOT ABOVEbSMALLu",
    "bCAPITAL LETTER G WITH MACRONbSMALLtbCAPITAL LETTER H WITH DOT ABOVEbSMALLu",
    "bCAPITAL LETTER H WITH DOT BELOWbSMALLubCAPITAL LETTER H WITH DIAERESISbSMALLt",
    "bCAPITAL LETTER H WITH CEDILLAbSMALLtbCAPITAL LETTER H WITH BREVE BELOWbSMALLu",
    "bCAPITAL LETTER I WITH TILDEqbSMALLubCAPITAL LETTER I WITH DIAERESIS AND ACUTEbSMALLv",
    "bCAPITAL LETTER K WITHqbSMALLtbCAPITAL LETTER K WITH DOT BELOWbSMALLu",
    "bCAPITAL LETTER K WITH LINEqbSMALLubCAPITAL LETTER L WITH DOTqbSMALLu",
    "bCAPITAL LETTER L WITH DOT BELOW AND MACRONbSMALLwbCAPITAL LETTER L WITH LINE BELOWbSMALLu",
    "bCAPITAL LETTER L WITH CIRCUMFLEXqbSMALLubCAPITAL LETTER M WITH ACUTEbSMALLt",
    "bCAPITAL LETTER M WITH DOT ABOVEbSMALLubCAPITAL LETTER M WITH DOT BELOWbSMALLu",
    "bCAPITAL LETTER N WITH DOT ABOVEbSMALLubCAPITAL LETTER N WITH DOT BELOWbSMALLu",
    "bCAPITAL LETTER N WITH LINEqbSMALLubCAPITAL LETTER N WITH CIRCUMFLEXqbSMALLu",
    "bCAPITAL LETTER O WITH TILDE AND ACUTEbSMALLvbCAPITAL LETTER O WITH TILDE AND DIAERESIS",
    "bSMALLvbCAPITAL LETTER O WITH MACRON AND GRAVEbSMALLv",
    "bCAPITAL LETTER O WITH MACRON AND ACUTEbSMALLvbCAPITAL LETTER P WITHqbSMALLt",
    "bCAPITAL LETTER P WITH DOT ABOVEbSMALLubCAPITAL LETTER RsbSMALLu",
    "bCAPITAL LETTER R WITH DOT BELOWbSMALLubCAPITAL LETTER R WITH DOT BELOW AND MACRONbSMALLw",
    "bCAPITAL LETTER R WITH LINE BELOWbSMALLubCAPITAL LETTER S WITH DOT ABOVEbSMALLu",
    "bCAPITAL LETTER S WITH DOT BELOWbSMALLubCAPITAL LETTER S WITH ACUTE AND DOT ABOVEbSMALLw",
    "bCAPITAL LETTER S WITH CARONsbSMALLwbCAPITAL LETTER S WITH DOT BELOWsbSMALLx",
    "bCAPITAL LETTER T WITHrbSMALLubCAPITAL LETTER T WITH DOT BELOWbSMALLu",
    "bCAPITAL LETTER T WITH LINEqbSMALLubCAPITAL LETTER T WITH CIRCUMFLEXqbSMALLu",
    "bCAPITAL LETTER U WITH DIAERESISqbSMALLubCAPITAL LETTER U WITH TILDEqbSMALLu",
    "bCAPITAL LETTER U WITH CIRCUMFLEXqbSMALLubCAPITAL LETTER U WITH TILDE AND ACUTEbSMALLv",
    "bCAPITAL LETTER U WITH MACRON AND DIAERESISbSMALLvbCAPITAL LETTER V WITH TILDEbSMALLt",
    "bCAPITAL LETTER V WITH DOT BELOWbSMALLubCAPITAL LETTER W WITH GRAVEbSMALLt",
    "bCAPITAL LETTER W WITH ACUTEbSMALLtbCAPITAL LETTER W WITH DIAERESISbSMALLt",
    "bCAPITAL LETTER W WITH DOT ABOVEbSMALLubCAPITAL LETTER W WITH DOT BELOWbSMALLu",
    "bCAPITAL LETTER X WITH DOT ABOVEbSMALLubCAPITAL LETTER X WITH DIAERESISbSMALLt",
    "bCAPITAL LETTER Y WITH DOT ABOVEbSMALLubCAPITAL LETTER Z WITH CIRCUMFLEXbSMALLt",
    "bCAPITAL LETTER Z WITH DOT BELOWbSMALLubCAPITAL LETTER Z WITH LINEqbSMALLudHs",
    "dT WITH DIAERESISdW WITH RING ABOVEdYsdA WITH RIGHT HALF RINGdLONG S WITH DOT ABOVE",
    "gDIAGONAL STROKEgHIGHqbCAPITAL LETTER SHARP SbSMALL LETTER DELTA",
    "bCAPITAL LETTER A WITH DOT BELOWbSMALLubCAPITAL LETTER A WITH HOOK ABOVEbSMALLu",
    "bCAPITAL LETTER A WITH CIRCUMFLEX AND ACUTEbSMALLv",
    "bCAPITAL LETTER A WITH CIRCUMFLEX AND GRAVEbSMALLv",
    "bCAPITAL LETTER A WITH CIRCUMFLEX AND HOOK ABOVEbSMALLw",
    "bCAPITAL LETTER A WITH CIRCUMFLEX AND TILDEbSMALLv",
    "bCAPITAL LETTER A WITH CIRCUMFLEX AND DOT BELOWbSMALLw",
    "bCAPITAL LETTER A WITH BREVE AND ACUTEbSMALLvbCAPITAL LETTER A WITH BREVE AND GRAVEbSMALLv",
    "bCAPITAL LETTER A WITH BREVE AND HOOK ABOVEbSMALLwbCAPITAL LETTER A WITH BREVE AND TILDE",
    "bSMALLvbCAPITAL LETTER A WITH BREVE AND DOT BELOWbSMALLwbCAPITAL LETTER E WITHrbSMALLu",
    "bCAPITAL LETTER E WITH HOOK ABOVEbSMALLubCAPITAL LETTER E WITH TILDEbSMALLt",
    "bCAPITAL LETTER E WITH CIRCUMFLEX AND ACUTEbSMALLv",
    "bCAPITAL LETTER E WITH CIRCUMFLEX AND GRAVEbSMALLv",
    "bCAPITAL LETTER E WITH CIRCUMFLEX AND HOOK ABOVEbSMALLw",
    "bCAPITAL LETTER E WITH CIRCUMFLEX AND TILDEbSMALLv",
    "bCAPITAL LETTER E WITH CIRCUMFLEX AND DOT BELOWbSMALLwbCAPITAL LETTER I WITH HOOK ABOVE",
    "bSMALLubCAPITAL LETTER I WITH DOT BELOWbSMALLubCAPITAL LETTER OsbSMALLu",
    "bCAPITAL LETTER O WITH HOOK ABOVEbSMALLubCAPITAL LETTER O WITH CIRCUMFLEX AND ACUTEbSMALLv",
    "bCAPITAL LETTER O WITH CIRCUMFLEX AND GRAVEbSMALLv",
    "bCAPITAL LETTER O WITH CIRCUMFLEX AND HOOK ABOVEbSMALLw",
    "bCAPITAL LETTER O WITH CIRCUMFLEX AND TILDEbSMALLv",
    "bCAPITAL LETTER O WITH CIRCUMFLEX AND DOT BELOWbSMALLwbCAPITAL LETTER O WITH HORN AND ACUTE",
    "bSMALLvbCAPITAL LETTER O WITH HORN AND GRAVEbSMALLv",
    "bCAPITAL LETTER O WITH HORN AND HOOK ABOVEbSMALLwbCAPITAL LETTER O WITH HORN AND TILDE",
    "bSMALLvbCAPITAL LETTER O WITH HORN AND DOT BELOWbSMALLwbCAPITAL LETTER U WITHrbSMALLu",
    "bCAPITAL LETTER U WITH HOOK ABOVEbSMALLubCAPITAL LETTER U WITH HORN AND ACUTEbSMALLv",
    "bCAPITAL LETTER U WITH HORN AND GRAVEbSMALLvbCAPITAL LETTER U WITH HORN AND HOOK ABOVE",
    "bSMALLwbCAPITAL LETTER U WITH HORN AND TILDEbSMALLv",
    "bCAPITAL LETTER U WITH HORN AND DOT BELOWbSMALLwbCAPITAL LETTER Y WITH GRAVEbSMALLt",
    "bCAPITAL LETTER Y WITH DOT BELOWbSMALLubCAPITAL LETTER Y WITH HOOK ABOVEbSMALLu",
    "bCAPITAL LETTER Y WITH TILDEbSMALLtbCAPITAL LETTER MIDDLE-WELSH LLbSMALLs",
    "bCAPITAL LETTER MIDDLE-WELSH VbSMALLsbCAPITAL LETTER Y WITH LOOPbSMALLt",
    "aGREEK SMALL LETTER ALPHA WITH PSILIfDASIAfPSILI AND VARIAfDASIArfPSILI AND OXIAfDASIAr",
    "fPSILI AND PERISPOMENIfDASIArbCAPITAL LETTER ALPHA WITH PSILIfDASIAfPSILI AND VARIAfDASIAr",
    "fPSILI AND OXIAfDASIArfPSILI AND PERISPOMENIfDASIArbSMALL LETTER EPSILON WITH PSILIfDASIA",
    "fPSILI AND VARIAfDASIArfPSILI AND OXIAfDASIAr"]⟩,
    ⟨0x1F18, [
    "aGREEK CAPITAL LETTER EPSILON WITH PSILIfDASIAfPSILI AND VARIAfDASIArfPSILI AND OXIAfDASIAr"]⟩,
    ⟨0x1F20, [
    "aGREEK SMALL LETTER ETA WITH PSILIfDASIAfPSILI AND VARIAfDASIArfPSILI AND OXIAfDASIAr",
    "fPSILI AND PERISPOMENIfDASIArbCAPITAL LETTER ETA WITH PSILIfDASIAfPSILI AND VARIAfDASIAr",
    "fPSILI AND OXIAfDASIArfPSILI AND PERISPOMENIfDASIArbSMALL LETTER IOTA WITH PSILIfDASIA",
    "fPSILI AND VARIAfDASIArfPSILI AND OXIAfDASIArfPSILI AND PERISPOMENIfDASIAr",
    "bCAPITAL LETTER IOTA WITH PSILIfDASIAfPSILI AND VARIAfDASIArfPSILI AND OXIAfDASIAr",
    "fPSILI AND PERISPOMENIfDASIArbSMALL LETTER OMICRON WITH PSILIfDASIAfPSILI AND VARIAfDASIAr",
    "fPSILI AND OXIAfDASIAr"]⟩,
    ⟨0x1F48, [
    "aGREEK CAPITAL LETTER OMICRON WITH PSILIfDASIAfPSILI AND VARIAfDASIArfPSILI AND OXIAfDASIAr"]⟩,
    ⟨0x1F50, [
    "aGREEK SMALL LETTER UPSILON WITH PSILIfDASIAfPSILI AND VARIAfDASIArfPSILI AND OXIAfDASIAr",
    "fPSILI AND PERISPOMENIfDASIAr"]⟩,
    ⟨0x1F59, ["aGREEK CAPITAL LETTER UPSILON WITH DASIA"]⟩,
    ⟨0x1F5B, ["aGREEK CAPITAL LETTER UPSILON WITH DASIA AND VARIA"]⟩,
    ⟨0x1F5D, ["aGREEK CAPITAL LETTER UPSILON WITH DASIA AND OXIA"]⟩,
    ⟨0x1F5F, [
    "aGREEK CAPITAL LETTER UPSILON WITH DASIA AND PERISPOMENIbSMALL LETTER OMEGA WITH PSILI",
    "fDASIAfPSILI AND VARIAfDASIArfPSILI AND OXIAfDASIArfPSILI AND PERISPOMENIfDASIAr",
    "bCAPITAL LETTER OMEGA WITH PSILIfDASIAfPSILI AND VARIAfDASIArfPSILI AND OXIAfDASIAr",
    "fPSILI AND PERISPOMENIfDASIArbSMALL LETTER ALPHA WITH VARIAfOXIAdEPSILON WITH VARIAfOXIA",
    "dETA WITH VARIAfOXIAdIOTA WITH VARIAfOXIAdOMICRON WITH VARIAfOXIAdUPSILON WITH VARIAfOXIA",
    "dOMEGA WITH VARIAfOXIA"]⟩,
    ⟨0x1F80, [
    "aGREEK SMALL LETTER ALPHA WITH PSILI AND YPOGEGRAMMENIfDASIArfPSILI AND VARIArfDASIAt",
    "fPSILI AND OXIArfDASIAtfPSILI AND PERISPOMENIrfDASIAt",
    "bCAPITAL LETTER ALPHA WITH PSILI AND PROSGEGRAMMENIfDASIArfPSILI AND VARIArfDASIAt",
    "fPSILI AND OXIArfDASIAtfPSILI AND PERISPOMENIrfDASIAt",
    "bSMALL LETTER ETA WITH PSILI AND YPOGEGRAMMENIfDASIArfPSILI AND VARIArfDASIAt",
    "fPSILI AND OXIArfDASIAtfPSILI AND PERISPOMENIrfDASIAt",
    "bCAPITAL LETTER ETA WITH PSILI AND PROSGEGRAMMENIfDASIArfPSILI AND VARIArfDASIAt",
    "fPSILI AND OXIArfDASIAtfPSILI AND PERISPOMENIrfDASIAt",
    "bSMALL LETTER OMEGA WITH PSILI AND YPOGEGRAMMENIfDASIArfPSILI AND VARIArfDASIAt",
    "fPSILI AND OXIArfDASIAtfPSILI AND PERISPOMENIrfDASIAt",
    "bCAPITAL LETTER OMEGA WITH PSILI AND PROSGEGRAMMENIfDASIArfPSILI AND VARIArfDASIAt",
    "fPSILI AND OXIArfDASIAtfPSILI AND PERISPOMENIrfDASIAtbSMALL LETTER ALPHA WITH VRACHYfMACRON",
    "fVARIA AND YPOGEGRAMMENIfqfOXIA ANDq"]⟩,
    ⟨0x1FB6, [
    "aGREEK SMALL LETTER ALPHA WITH PERISPOMENIgAND YPOGEGRAMMENI",
    "bCAPITAL LETTER ALPHA WITH VRACHYfMACRONfVARIAfOXIAfPROSGEGRAMMENIbKORONISbPROSGEGRAMMENI",
    "bPSILIbPERISPOMENIbDIALYTIKA ANDqbSMALL LETTER ETA WITH VARIA AND YPOGEGRAMMENIfqfOXIA ANDq"]⟩,
    ⟨0x1FC6, [
    "aGREEK SMALL LETTER ETA WITH PERISPOMENIgAND YPOGEGRAMMENI",
    "bCAPITAL LETTER EPSILON WITH VARIAfOXIAdETA WITH VARIAfOXIAfPROSGEGRAMMENIbPSILI AND VARIA",
    "dOXIAdPERISPOMENIbSMALL LETTER IOTA WITH VRACHYfMACRONfDIALYTIKA AND VARIAhOXIA"]⟩,
    ⟨0x1FD6, [
    "aGREEK SMALL LETTER IOTA WITH PERISPOMENIfDIALYTIKA ANDqbCAPITAL LETTER IOTA WITH VRACHY",
    "fMACRONfVARIAfOXIA"]⟩,
    ⟨0x1FDD, [
    "aGREEK DASIA AND VARIAdOXIAdPERISPOMENIbSMALL LETTER UPSILON WITH VRACHYfMACRON",
    "fDIALYTIKA AND VARIAhOXIAdRHO WITH PSILIfDASIAdUPSILON WITH PERISPOMENIfDIALYTIKA ANDq",
    "bCAPITAL LETTER UPSILON WITH VRACHYfMACRONfVARIAfOXIAdRHO WITH DASIAbDIALYTIKA AND VARIA",
    "dOXIAbVARIA"]⟩,
    ⟨0x1FF2, ["aGREEK SMALL LETTER OMEGA WITH VARIA AND YPOGEGRAMMENIfqfOXIA ANDq"]⟩,
    ⟨0x1FF6, [
    "aGREEK SMALL LETTER OMEGA WITH PERISPOMENIgAND YPOGEGRAMMENI",
    "bCAPITAL LETTER OMICRON WITH VARIAfOXIAdOMEGA WITH VARIAfOXIAfPROSGEGRAMMENIbOXIAbDASIA"]⟩,
    ⟨0x2000, [
    "aEN QUADaEMqaEN SPACEaEMqaTHREE-PER-EMqaFOUR-PER-EMqaSIX-PER-EMqaFIGUREqaPUNCTUATIONqaTHINq",
    "aHAIRqaZERO WIDTHqcNON-JOINERcJOINERaLEFT-TO-RIGHT MARKaRIGHT-TO-LEFTqaHYPHENaNON-BREAKINGq",
    "aFIGURE DASHaENqaEMqaHORIZONTAL BARaDOUBLE VERTICAL LINEbLOWqaLEFT SINGLE QUOTATION MARK",
    "aRIGHTsaSINGLE LOW-9rbHIGH-REVERSED-9raLEFT DOUBLEraRIGHTsaDOUBLE LOW-9rbHIGH-REVERSED-9r",
    "aDAGGERaDOUBLEqaBULLETaTRIANGULARqaONE DOT LEADERaTWOraHORIZONTAL ELLIPSIS",
    "aHYPHENATION POINTaLINE SEPARATORaPARAGRAPHqaLEFT-TO-RIGHT EMBEDDINGaRIGHT-TO-LEFTq",
    "aPOP DIRECTIONAL FORMATTINGaLEFT-TO-RIGHT OVERRIDEaRIGHT-TO-LEFTqaNARROW NO-BREAK SPACE",
    "aPER MILLE SIGNbTEN THOUSANDqaPRIMEaDOUBLEqaTRIPLEqaREVERSEDqbDOUBLEqbTRIPLEqaCARET",
    "aSINGLE LEFT-POINTING ANGLE QUOTATION MARKbRIGHT-POINTINGsaREFERENCEqaDOUBLE EXCLAMATIONq",
    "aINTERROBANGaOVERLINEaUNDERTIEaCHARACTER TIEaCARET INSERTION POINTaASTERISMaHYPHEN BULLET",
    "aFRACTION SLASHaLEFT SQUARE BRACKET WITH QUILLaRIGHTtaDOUBLE QUESTION MARK",
    "aQUESTION EXCLAMATIONqaEXCLAMATION QUESTIONqaTIRONIAN SIGN ETaREVERSED PILCROW SIGN",
    "aBLACK LEFTWARDS BULLETbRIGHTWARDSqaLOW ASTERISKaREVERSED SEMICOLONaCLOSE UP",
    "aTWO ASTERISKS ALIGNED VERTICALLYaCOMMERCIAL MINUS SIGNaSWUNG DASHaINVERTED UNDERTIE",
    "aFLOWER PUNCTUATION MARKaTHREE DOT PUNCTUATIONaQUADRUPLE PRIMEaFOUR DOT PUNCTUATIONaFIVEr",
    "aTWOraFOUR DOT MARKaDOTTED CROSSaTRICOLONaVERTICAL FOUR DOTSaMEDIUM MATHEMATICAL SPACE",
    "aWORD JOINERaFUNCTION APPLICATIONaINVISIBLE TIMESbSEPARATORbPLUS"]⟩,
    ⟨0x2066, [
    "aLEFT-TO-RIGHT ISOLATEaRIGHT-TO-LEFTqaFIRST STRONGqaPOP DIRECTIONALq",
    "aINHIBIT SYMMETRIC SWAPPINGaACTIVATEraINHIBIT ARABIC FORM SHAPINGaACTIVATEs",
    "aNATIONAL DIGIT SHAPESaNOMINALraSUPERSCRIPT ZERObLATIN SMALL LETTER I"]⟩,
    ⟨0x2074, [
    "aSUPERSCRIPT FOURbFIVEbSIXbSEVENbEIGHTbNINEbPLUS SIGNbMINUSbEQUALS SIGNbLEFT PARENTHESIS",
    "bRIGHTqbLATIN SMALL LETTER NaSUBSCRIPT ZERObONEbTWObTHREEbFOURbFIVEbSIXbSEVENbEIGHTbNINE",
    "bPLUS SIGNbMINUSbEQUALS SIGNbLEFT PARENTHESISbRIGHTq"]⟩,
    ⟨0x2090, ["aLATIN SUBSCRIPT SMALL LETTER AeEeOeXeSCHWAeHeKeLeMeNePeSeT"]⟩,
    ⟨0x20A0, [
    "aEURO-CURRENCY SIGNaCOLONqaCRUZEIROqaFRENCH FRANCqaLIRAqaMILLqaNAIRAqaPESETAqaRUPEEqaWONq",
    "aNEW SHEQELqaDONGqaEUROqaKIPqaTUGRIKqaDRACHMAqaGERMAN PENNYqaPESOqaGUARANIqaAUSTRALq",
    "aHRYVNIAqaCEDIqaLIVRE TOURNOISqaSPESMILOqaTENGEqaINDIAN RUPEEqaTURKISH LIRAqaNORDIC MARKq",
    "aMANATqaRUBLEqaLARIqaBITCOINqaSOMq"]⟩,
    ⟨0x20D0, [
    "aCOMBINING LEFT HARPOON ABOVEbRIGHTrbLONG VERTICAL LINE OVERLAYbSHORTs",
    "bANTICLOCKWISE ARROW ABOVEbCLOCKWISErbLEFTrbRIGHTrbRING OVERLAYbCLOCKWISErbANTICLOCKWISEr",
    "bTHREE DOTS ABOVEbFOURrbENCLOSING CIRCLEcSQUAREcDIAMONDcCIRCLE BACKSLASH",
    "bLEFT RIGHT ARROW ABOVEbENCLOSING SCREENcKEYCAPcUPWARD POINTING TRIANGLE",
    "bREVERSE SOLIDUS OVERLAYbDOUBLE VERTICAL STROKEqbANNUITY SYMBOLbTRIPLE UNDERDOT",
    "bWIDE BRIDGE ABOVEbLEFTWARDS ARROW OVERLAYbLONG DOUBLE SOLIDUSq",
    "bRIGHTWARDS HARPOON WITH BARB DOWNWARDSbLEFTWARDStbLEFT ARROW BELOWbRIGHTrbASTERISK ABOVE"]⟩,
    ⟨0x2100, [
    "aACCOUNT OFaADDRESSED TO THE SUBJECTaDOUBLE-STRUCK CAPITAL CaDEGREE CELSIUS",
    "aCENTRE LINE SYMBOLaCARE OFaCADA UNAaEULER CONSTANTaSCRUPLEaDEGREE FAHRENHEIT",
    "aSCRIPT SMALL GbCAPITAL HaBLACK-LETTERraDOUBLE-STRUCKraPLANCK CONSTANTcOVER TWO PI",
    "aSCRIPT CAPITAL IaBLACK-LETTERraSCRIPT CAPITAL LbSMALLqaL B BAR SYMBOL",
    "aDOUBLE-STRUCK CAPITAL NaNUMERO SIGNaSOUND RECORDING COPYRIGHTaSCRIPT CAPITAL P",
    "aDOUBLE-STRUCKrcQaSCRIPT CAPITAL RaBLACK-LETTERraDOUBLE-STRUCKraPRESCRIPTION TAKEaRESPONSE",
    "aSERVICE MARKaTELEPHONE SIGNaTRADE MARKqaVERSICLEaDOUBLE-STRUCK CAPITAL ZaOUNCE SIGNaOHMq",
    "aINVERTEDraBLACK-LETTER CAPITAL ZaTURNED GREEK SMALL LETTER IOTAaKELVIN SIGNaANGSTROMq",
    "aSCRIPT CAPITAL BaBLACK-LETTER CAPITAL CaESTIMATED SYMBOLaSCRIPT SMALL EbCAPITALqcFaTURNEDr",
    "aSCRIPT CAPITAL MbSMALL OaALEF SYMBOLaBETqaGIMELqaDALETqaINFORMATION SOURCE",
    "aROTATED CAPITAL QaFACSIMILE SIGNaDOUBLE-STRUCK SMALL PIcGAMMAbCAPITALqcPIbN-ARY SUMMATION",
    "aTURNED SANS-SERIF CAPITAL GdLaREVERSEDsaTURNED SANS-SERIF CAPITAL Y",
    "aDOUBLE-STRUCK ITALIC CAPITAL DcSMALLqdEdIdJaPROPERTY LINEaTURNED AMPERSANDaPER SIGN",
    "aAKTIESELSKABaTURNED SMALL FaSYMBOL FOR SAMARITAN SOURCEaVULGAR FRACTION ONE SEVENTHdNINTH",
    "dTENTHdTHIRDcTWO THIRDScONE FIFTHcTWO FIFTHScTHREEqcFOURqcONE SIXTHcFIVE SIXTHScONE EIGHTH",
    "cTHREE EIGHTHScFIVEqcSEVENqaFRACTION NUMERATOR ONEaROMAN NUMERALqcTWOcTHREEcFOURcFIVEcSIX",
    "cSEVENcEIGHTcNINEcTENcELEVENcTWELVEcFIFTYcONE HUNDREDcFIVEqcONE THOUSAND",
    "aSMALL ROMAN NUMERAL ONEdTWOdTHREEdFOURdFIVEdSIXdSEVENdEIGHTdNINEdTENdELEVENdTWELVEdFIFTY",
    "dONE HUNDREDdFIVEqdONE THOUSANDaROMAN NUMERAL ONE THOUSAND C DcFIVE THOUSANDcTENq",
    "cREVERSED ONE HUNDREDaLATIN SMALL LETTER REVERSED CaROMAN NUMERAL SIX LATE FORM",
    "cFIFTY EARLYqdTHOUSANDcONE HUNDREDqaVULGAR FRACTION ZERO THIRDSaTURNED DIGIT TWOcTHREE"]⟩]

end RelaxCompact.CharacterName
